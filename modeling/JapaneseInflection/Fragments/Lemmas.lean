import JapaneseInflection.Fragments

/-!
# What storing a fragment does

`WellStored` is the shape that all operations keep: the used slots hold texts that are not empty,
and the others hold nothing. On well stored fragments each operation is an operation on lists.

* `toList_push`: pushing a text appends it, unless it is empty.
* `WellStored.push_eq_error_iff`: pushing fails exactly when a slot is needed and none is left.
* `ofList_of_fits` and `ofList_of_not_fits`: storing a list keeps its texts that are not empty, and
  fails exactly when those are more than the slots.
* `WellStored.isEmpty_iff`: nothing is stored exactly where the text is empty.
-/

namespace JapaneseInflection.Fragments

variable {capacity : Nat}

/-- The used slots hold texts that are not empty, and all others are empty. -/
structure WellStored (fragments : Fragments capacity) : Prop where
  size_le : fragments.size ≤ capacity
  used : ∀ (i : Nat) (_ : i < capacity), i < fragments.size → fragments.slots[i] ≠ ""
  unused : ∀ (i : Nat) (_ : i < capacity), fragments.size ≤ i → fragments.slots[i] = ""

theorem wellStored_empty : (empty : Fragments capacity).WellStored where
  size_le := Nat.zero_le capacity
  used i _ hi := absurd hi (Nat.not_lt_zero i)
  unused i _ _ := by simp [empty]

/-- The fragments with a text in the first slot that is not used. -/
def store (fragments : Fragments capacity) (text : String) (hroom : fragments.size < capacity) :
    Fragments capacity where
  slots := fragments.slots.set fragments.size text hroom
  size := fragments.size + 1

theorem push_empty (fragments : Fragments capacity) : fragments.push "" = .ok fragments := by
  simp [push]

theorem push_of_room {fragments : Fragments capacity} {text : String} (ht : text ≠ "")
    (hroom : fragments.size < capacity) :
    fragments.push text = .ok (fragments.store text hroom) := by
  simp [push, ht, hroom, store]

theorem push_of_full {fragments : Fragments capacity} {text : String} (ht : text ≠ "")
    (hfull : ¬ fragments.size < capacity) : fragments.push text = .error .full := by
  simp [push, ht, hfull]

theorem single_of_room {text : String} (ht : text ≠ "") (hroom : 0 < capacity) :
    (single text : Except StorageFault (Fragments capacity)) = .ok (empty.store text hroom) := by
  simp [single, ht, hroom, store, empty]

/-- Storing a text appends it. -/
theorem toList_store (fragments : Fragments capacity) (text : String)
    (hroom : fragments.size < capacity) :
    (fragments.store text hroom).toList = fragments.toList ++ [text] := by
  have hslots : fragments.slots.toList.length = capacity := fragments.slots.length_toList
  have hfits : fragments.size < fragments.slots.toList.length := by omega
  simp only [toList, store, Vector.toList_set]
  rw [List.take_succ_eq_append_getElem (by simpa using hfits), List.take_set_of_le (Nat.le_refl _)]
  simp

/-- Pushing a text appends it, unless it is empty. -/
theorem toList_push {fragments longer : Fragments capacity} {text : String}
    (hp : fragments.push text = .ok longer) :
    longer.toList = fragments.toList ++ [text].filter (· ≠ "") := by
  by_cases ht : text = ""
  · subst ht
    rw [push_empty] at hp
    simp [← Except.ok.inj hp]
  · by_cases hroom : fragments.size < capacity
    · rw [push_of_room ht hroom] at hp
      rw [← Except.ok.inj hp, toList_store]
      simp [ht]
    · rw [push_of_full ht hroom] at hp
      cases hp

namespace WellStored

variable {fragments : Fragments capacity}

theorem length_toList (hs : fragments.WellStored) :
    fragments.toList.length = fragments.size := by
  simp only [toList, List.length_take, Vector.length_toList]
  exact Nat.min_eq_left hs.size_le

theorem store (hs : fragments.WellStored) {text : String} (ht : text ≠ "")
    (hroom : fragments.size < capacity) : (fragments.store text hroom).WellStored where
  size_le := hroom
  used i hi huse := by
    by_cases hlast : i = fragments.size
    · subst hlast
      simpa [Fragments.store] using ht
    · have hbefore : i < fragments.size := by
        simp only [Fragments.store] at huse
        omega
      have hkept := hs.used i hi hbefore
      simpa [Fragments.store, Vector.getElem_set, Ne.symm hlast] using hkept
  unused i hi hbehind := by
    have hother : fragments.size ≠ i := by
      simp only [Fragments.store] at hbehind
      omega
    have hkept := hs.unused i hi (by simp only [Fragments.store] at hbehind; omega)
    simpa [Fragments.store, Vector.getElem_set, hother] using hkept

/-- A stored fragment is not empty. -/
theorem ne_empty_of_mem (hs : fragments.WellStored) {text : String}
    (hm : text ∈ fragments.toList) : text ≠ "" := by
  obtain ⟨i, hrange, rfl⟩ := List.mem_iff_getElem.1 hm
  have hi : i < fragments.size := by
    rw [hs.length_toList] at hrange
    exact hrange
  have hkept := hs.used i (Nat.lt_of_lt_of_le hi hs.size_le) hi
  simpa [toList] using hkept

theorem push (hs : fragments.WellStored) {text : String} {longer : Fragments capacity}
    (hp : fragments.push text = .ok longer) : longer.WellStored := by
  by_cases ht : text = ""
  · subst ht
    rw [push_empty] at hp
    exact Except.ok.inj hp ▸ hs
  · by_cases hroom : fragments.size < capacity
    · rw [push_of_room ht hroom] at hp
      exact Except.ok.inj hp ▸ hs.store ht hroom
    · rw [push_of_full ht hroom] at hp
      cases hp

/-- Pushing fails exactly when a slot is needed and none is left. -/
theorem push_eq_error_iff (hs : fragments.WellStored) {text : String} {fault : StorageFault} :
    fragments.push text = .error fault ↔
      fault = .full ∧ text ≠ "" ∧ fragments.toList.length = capacity := by
  have hsize := hs.length_toList
  have hbound := hs.size_le
  by_cases ht : text = ""
  · subst ht
    simp [push_empty]
  · by_cases hroom : fragments.size < capacity
    · rw [push_of_room ht hroom]
      simp only [reduceCtorEq, false_iff]
      omega
    · rw [push_of_full ht hroom]
      simp only [Except.error.injEq, ht, ne_eq, not_false_eq_true, true_and]
      constructor
      · rintro rfl
        exact ⟨rfl, by omega⟩
      · rintro ⟨rfl, -⟩
        rfl

/-- Pushing a list of texts appends those that are not empty, if there are slots for them, and
fails otherwise. -/
theorem pushAll_cases (hs : fragments.WellStored) (texts : List String) :
    (fragments.toList.length + (texts.filter (· ≠ "")).length ≤ capacity ∧
      ∃ longer, fragments.pushAll texts = .ok longer ∧ longer.WellStored ∧
        longer.toList = fragments.toList ++ texts.filter (· ≠ "")) ∨
    (capacity < fragments.toList.length + (texts.filter (· ≠ "")).length ∧
      fragments.pushAll texts = .error .full) := by
  induction texts generalizing fragments with
  | nil =>
    left
    refine ⟨?_, fragments, rfl, hs, by simp⟩
    simpa [hs.length_toList] using hs.size_le
  | cons text texts ih =>
    cases hp : fragments.push text with
    | ok longer =>
      have hshown := toList_push hp
      have hstep : fragments.pushAll (text :: texts) = longer.pushAll texts := by
        simp [pushAll, hp]
      have hsplit : (text :: texts).filter (· ≠ "") =
          [text].filter (· ≠ "") ++ texts.filter (· ≠ "") := by
        rw [← List.filter_append]
        rfl
      have hcount : longer.toList.length + (texts.filter (· ≠ "")).length =
          fragments.toList.length + ((text :: texts).filter (· ≠ "")).length := by
        rw [hshown, hsplit, List.length_append, List.length_append, Nat.add_assoc]
      rw [hstep, ← hcount]
      rcases ih (hs.push hp) with ⟨hfits, filled, hmade, hkept, hall⟩ | ⟨hmany, hfailed⟩
      · left
        refine ⟨hfits, filled, hmade, hkept, ?_⟩
        rw [hall, hshown, hsplit, List.append_assoc]
      · exact Or.inr ⟨hmany, hfailed⟩
    | error fault =>
      obtain ⟨rfl, ht, hfull⟩ := hs.push_eq_error_iff.1 hp
      right
      refine ⟨?_, by simp [pushAll, hp]⟩
      have hneeded : ((text :: texts).filter (· ≠ "")).length =
          (texts.filter (· ≠ "")).length + 1 := by
        simp [ht]
      omega

/-- Nothing is stored exactly where the text is empty, as no stored fragment is. -/
theorem isEmpty_iff (hs : fragments.WellStored) :
    fragments.isEmpty = true ↔ fragments.text = "" := by
  rw [isEmpty, beq_iff_eq, ← hs.length_toList, List.length_eq_zero_iff]
  constructor
  · intro hnil
    rw [text, hnil, String.join_nil]
  · intro hblank
    cases hl : fragments.toList with
    | nil => rfl
    | cons first rest =>
      have ht := hs.ne_empty_of_mem (hl ▸ List.mem_cons_self)
      rw [text, hl, String.join_cons, String.append_eq_empty_iff] at hblank
      exact absurd hblank.1 ht

end WellStored

/-- Storing a single text fails exactly where there is no slot for it. -/
theorem single_eq_error_iff {text : String} {fault : StorageFault} :
    (single text : Except StorageFault (Fragments capacity)) = .error fault ↔
      fault = .outOfBounds 0 0 ∧ capacity = 0 ∧ text ≠ "" := by
  by_cases ht : text = ""
  · simp [single, ht]
  · by_cases hroom : 0 < capacity
    · rw [single_of_room ht hroom]
      simp [Nat.ne_of_gt hroom]
    · obtain rfl := Nat.eq_zero_of_not_pos hroom
      simp [single, ht, eq_comm]

/-- A single text is stored, unless it is empty. -/
theorem single_eq_ok {text : String} {made : Fragments capacity} (hm : single text = .ok made) :
    made.WellStored ∧ made.toList = [text].filter (· ≠ "") := by
  by_cases ht : text = ""
  · subst ht
    obtain rfl : empty = made := by simpa [single] using hm
    exact ⟨wellStored_empty, by simp⟩
  · by_cases hroom : 0 < capacity
    · rw [single_of_room ht hroom] at hm
      obtain rfl := Except.ok.inj hm
      refine ⟨wellStored_empty.store ht hroom, ?_⟩
      rw [toList_store empty text hroom]
      simp [ht]
    · simp [single, ht, hroom] at hm

/-- Storing a list keeps its texts that are not empty, if there are slots for them. -/
theorem ofList_of_fits {texts : List String}
    (hfits : (texts.filter (· ≠ "")).length ≤ capacity) :
    ∃ made : Fragments capacity, ofList texts = .ok made ∧ made.WellStored ∧
      made.toList = texts.filter (· ≠ "") := by
  have hstart : (empty : Fragments capacity).WellStored := wellStored_empty
  rcases hstart.pushAll_cases texts with ⟨-, made, hmade, hkept, hall⟩ | ⟨hmany, -⟩
  · exact ⟨made, hmade, hkept, by simpa using hall⟩
  · simp only [toList_empty, List.length_nil] at hmany
    omega

/-- Storing a list fails when it has more texts that are not empty than there are slots. -/
theorem ofList_of_not_fits {texts : List String}
    (hmany : capacity < (texts.filter (· ≠ "")).length) :
    (ofList texts : Except StorageFault (Fragments capacity)) = .error .full := by
  have hstart : (empty : Fragments capacity).WellStored := wellStored_empty
  rcases hstart.pushAll_cases texts with ⟨hfits, -⟩ | ⟨-, hfailed⟩
  · simp only [toList_empty, List.length_nil] at hfits
    omega
  · exact hfailed

/-- Storing a list fails exactly where it has more texts that are not empty than there are
slots. -/
theorem ofList_eq_error_iff {texts : List String} {fault : StorageFault} :
    (ofList texts : Except StorageFault (Fragments capacity)) = .error fault ↔
      fault = .full ∧ capacity < (texts.filter (· ≠ "")).length := by
  by_cases hfits : (texts.filter (· ≠ "")).length ≤ capacity
  · obtain ⟨made, hmade, -⟩ := ofList_of_fits hfits
    rw [hmade]
    simp only [reduceCtorEq, false_iff]
    omega
  · rw [ofList_of_not_fits (Nat.lt_of_not_le hfits), Except.error.injEq]
    exact ⟨fun hsame => ⟨hsame.symm, Nat.lt_of_not_le hfits⟩, fun hsame => hsame.1.symm⟩

/-- A list that is stored is kept but for its empty texts. -/
theorem ofList_eq_ok {texts : List String} {made : Fragments capacity}
    (hm : ofList texts = .ok made) :
    made.WellStored ∧ made.toList = texts.filter (· ≠ "") := by
  by_cases hfits : (texts.filter (· ≠ "")).length ≤ capacity
  · obtain ⟨other, hsame, hkept, hall⟩ := ofList_of_fits hfits
    obtain rfl := Except.ok.inj (hsame.symm.trans hm)
    exact ⟨hkept, hall⟩
  · rw [ofList_of_not_fits (Nat.lt_of_not_le hfits)] at hm
    cases hm

end JapaneseInflection.Fragments
