import JapaneseInflection.Fragments.Lemmas
import JapaneseInflection.Fragments.Operation

/-!
# What fragments hold after any operations

Fragments of any capacity hold a list of texts that are not empty. An operation changes the list as
it would change a list without a bound, or it fails and changes nothing.

* `Operation.outcome_perform`: an operation leaves what it makes, or what was held before.
* `Operation.Refused` says when an operation fails, by the list that is held alone.
* `sinceReplacing` cuts a sequence of operations to those that still count.
* `run_refines`: after any operations, the fragments hold the texts given by those that count, and
  this decides which operation fails next.
-/

namespace JapaneseInflection.Fragments

variable {capacity : Nat}

/-! ### Programs in place -/

/-- The end of a program that changes what is held only when it succeeds. -/
def settle (held : Fragments capacity) :
    Except StorageFault (Fragments capacity) → Except StorageFault Unit × Fragments capacity
  | .ok made => (.ok (), made)
  | .error fault => (.error fault, held)

theorem outcome_get_bind (next : Fragments capacity → InPlace capacity Unit)
    (held : Fragments capacity) :
    (get >>= next : InPlace capacity Unit).outcome held = (next held).outcome held := rfl

theorem outcome_replaceBy (made : Except StorageFault (Fragments capacity))
    (held : Fragments capacity) : (replaceBy made).outcome held = settle held made := by
  cases made <;> rfl

/-- Pushing in place leaves what pushing makes. It looks for a slot before it writes, so nothing is
written when there is none. -/
theorem outcome_pushInPlace (text : String) (held : Fragments capacity) :
    (pushInPlace text).outcome held = settle held (held.push text) := by
  by_cases ht : text = ""
  · rw [pushInPlace, if_neg (not_not_intro ht), ht, push_empty]
    rfl
  · rw [pushInPlace, if_pos ht, outcome_get_bind]
    by_cases hroom : held.size < capacity
    · rw [if_neg (not_not_intro hroom), push_of_room ht hroom, writeSlot, dif_pos hroom]
      rfl
    · rw [if_pos hroom, push_of_full ht hroom]
      rfl

namespace Operation

/-- What an operation makes of the fragments that are held. -/
def made (held : Fragments capacity) : Operation → Except StorageFault (Fragments capacity)
  | single text => Fragments.single text
  | clear => .ok empty
  | push text => held.push text
  | extend text => held.push text
  | collect texts => ofList texts

/-- An operation leaves what it makes, or what was held before. -/
theorem outcome_perform (operation : Operation) (held : Fragments capacity) :
    operation.perform.outcome held = settle held (operation.made held) := by
  cases operation with
  | single text => exact outcome_replaceBy _ held
  | clear => exact outcome_replaceBy _ held
  | push text => exact outcome_pushInPlace text held
  | extend text =>
    rw [perform, outcome_get_bind]
    exact outcome_replaceBy _ held
  | collect texts => exact outcome_replaceBy _ held

/-! ### Operations on lists -/

/-- The texts that an operation gives. -/
def texts : Operation → List String
  | single text => [text]
  | clear => []
  | push text => [text]
  | extend text => [text]
  | collect texts => texts

/-- Test if what was held before is dropped. -/
def replaces : Operation → Bool
  | single _ => true
  | clear => true
  | push _ => false
  | extend _ => false
  | collect _ => true

/-- The list that is held after an operation that succeeds. -/
def standing (held : List String) (operation : Operation) : List String :=
  (if operation.replaces then [] else held) ++ operation.texts.filter (· ≠ "")

/-- The failures of an operation where a list is held: a text needs a slot and none is left, there
are more texts than slots, or there is no slot at all. -/
def Refused (capacity : Nat) (held : List String) : Operation → StorageFault → Prop
  | single text, fault => fault = .outOfBounds 0 0 ∧ capacity = 0 ∧ text ≠ ""
  | clear, _ => False
  | push text, fault => fault = .full ∧ text ≠ "" ∧ held.length = capacity
  | extend text, fault => fault = .full ∧ text ≠ "" ∧ held.length = capacity
  | collect texts, fault => fault = .full ∧ capacity < (texts.filter (· ≠ "")).length

theorem made_eq_error_iff {held : Fragments capacity} (hs : held.WellStored)
    (operation : Operation) {fault : StorageFault} :
    operation.made held = .error fault ↔ operation.Refused capacity held.toList fault := by
  cases operation with
  | single text => exact single_eq_error_iff
  | clear => exact iff_of_false nofun id
  | push text => exact hs.push_eq_error_iff
  | extend text => exact hs.push_eq_error_iff
  | collect texts => exact ofList_eq_error_iff

/-- What an operation makes is well stored, and it is the list that the operation makes. -/
theorem made_eq_ok {held after : Fragments capacity} (hs : held.WellStored)
    {operation : Operation} (hm : operation.made held = .ok after) :
    after.WellStored ∧ after.toList = operation.standing held.toList := by
  cases operation with
  | single text => exact single_eq_ok hm
  | clear =>
    obtain rfl := Except.ok.inj hm
    exact ⟨wellStored_empty, toList_empty⟩
  | push text => exact ⟨hs.push hm, toList_push hm⟩
  | extend text => exact ⟨hs.push hm, toList_push hm⟩
  | collect texts => exact ofList_eq_ok hm

/-- An operation ends with a failure exactly when it is refused. -/
theorem outcome_eq_error_iff {held : Fragments capacity} (hs : held.WellStored)
    (operation : Operation) {fault : StorageFault} :
    (operation.perform.outcome held).1 = .error fault ↔
      operation.Refused capacity held.toList fault := by
  rw [outcome_perform, ← made_eq_error_iff hs]
  cases operation.made held <;> simp [settle]

/-- An operation that fails leaves what was held before. -/
theorem held_of_outcome_eq_error {held : Fragments capacity} {operation : Operation}
    {fault : StorageFault} (hf : (operation.perform.outcome held).1 = .error fault) :
    (operation.perform.outcome held).2 = held := by
  rw [outcome_perform] at hf ⊢
  cases hm : operation.made held with
  | ok after =>
    rw [hm] at hf
    cases hf
  | error cause => rfl

end Operation

/-! ### Sequences of operations -/

/-- The operations since the last one that drops what was held before, and all of them if none
does. -/
def sinceReplacing : List Operation → List Operation
  | [] => []
  | operation :: operations =>
    if operations.any Operation.replaces then sinceReplacing operations
    else operation :: operations

/-- The texts that operations give since the last one that drops what was held before. -/
def givenBy (operations : List Operation) : List String :=
  (sinceReplacing operations).flatMap Operation.texts

theorem sinceReplacing_append_singleton (operations : List Operation) (operation : Operation) :
    sinceReplacing (operations ++ [operation]) =
      if operation.replaces then [operation] else sinceReplacing operations ++ [operation] := by
  induction operations with
  | nil => simp [sinceReplacing]
  | cons first rest ih =>
    rw [List.cons_append, sinceReplacing, List.any_append, ih]
    by_cases hr : operation.replaces = true
    · simp [hr]
    · by_cases hany : rest.any Operation.replaces = true
      · simp [hr, hany, sinceReplacing]
      · simp [hr, hany, sinceReplacing]

/-- One more operation makes of the texts that count what it makes of a list. -/
theorem filter_givenBy_append_singleton (operations : List Operation) (operation : Operation) :
    (givenBy (operations ++ [operation])).filter (· ≠ "") =
      operation.standing ((givenBy operations).filter (· ≠ "")) := by
  rw [givenBy, sinceReplacing_append_singleton, Operation.standing]
  by_cases hr : operation.replaces = true
  · rw [if_pos hr, if_pos hr, List.flatMap_singleton, List.nil_append]
  · rw [if_neg hr, if_neg hr, List.flatMap_append, List.flatMap_singleton, List.filter_append,
      givenBy]

/-- The fragments that are held, and the operations that went through until then. -/
structure History (capacity : Nat) where
  held : Fragments capacity
  performed : List Operation

namespace History

/-- Nothing is held, and nothing was done. -/
def start : History capacity := ⟨empty, []⟩

/-- A history with one more operation. One that fails gives nothing. -/
def next (history : History capacity) (operation : Operation) : History capacity :=
  match operation.perform.outcome history.held with
  | (.ok _, held) => ⟨held, history.performed ++ [operation]⟩
  | (.error _, held) => ⟨held, history.performed⟩

/-- The fragments hold the texts that count, and no empty ones. -/
structure Faithful (history : History capacity) : Prop where
  stored : history.held.WellStored
  toList_eq : history.held.toList = (givenBy history.performed).filter (· ≠ "")

theorem faithful_start : (start : History capacity).Faithful where
  stored := wellStored_empty
  toList_eq := toList_empty

/-- One more operation keeps the fragments faithful, whether it fails or not. -/
theorem Faithful.next {history : History capacity} (hf : history.Faithful)
    (operation : Operation) : (history.next operation).Faithful := by
  have ho := operation.outcome_perform history.held
  cases hm : operation.made history.held with
  | ok after =>
    obtain ⟨hs, hl⟩ := operation.made_eq_ok hf.stored hm
    rw [hm, settle] at ho
    rw [History.next, ho]
    refine ⟨hs, ?_⟩
    rw [filter_givenBy_append_singleton, ← hf.toList_eq]
    exact hl
  | error fault =>
    rw [hm, settle] at ho
    rw [History.next, ho]
    exact ⟨hf.stored, hf.toList_eq⟩

end History

/-- The history of a sequence of operations, from nothing on. -/
def run (operations : List Operation) : History capacity :=
  operations.foldl History.next .start

/-- Every sequence of operations leaves faithful fragments. -/
theorem faithful_run (operations : List Operation) :
    (run operations : History capacity).Faithful := by
  have hrun : ∀ history : History capacity, history.Faithful →
      (operations.foldl History.next history).Faithful := by
    induction operations with
    | nil => exact fun history hf => hf
    | cons operation rest ih => exact fun history hf => ih _ (hf.next operation)
  exact hrun .start History.faithful_start

/-- **Fragments are a bounded list of texts that are not empty.** After any operations, at most
`capacity` slots are in use, these hold texts and the others hold nothing. The texts are those that
the operations gave that went through since the last one that dropped what was held, but for the
empty ones. What is printed, the characters and the test for emptiness are read off their
concatenation. Which operation fails next, and how, depends on the texts alone, and it leaves the
fragments as they were. -/
theorem run_refines (capacity : Nat) (operations : List Operation) :
    let history : History capacity := run operations
    let texts := (givenBy history.performed).filter (· ≠ "")
    history.held.WellStored ∧
    history.held.toList = texts ∧
    history.held.render .plain = String.join texts ∧
    history.held.chars = (String.join texts).toList ∧
    (history.held.isEmpty = true ↔ String.join texts = "") ∧
    ∀ operation : Operation,
      (∀ fault, (operation.perform.outcome history.held).1 = .error fault ↔
        operation.Refused capacity texts fault) ∧
      (∀ fault, (operation.perform.outcome history.held).1 = .error fault →
        (operation.perform.outcome history.held).2 = history.held) := by
  intro history texts
  have hf : history.Faithful := faithful_run operations
  have hl : history.held.toList = texts := hf.toList_eq
  have htext : history.held.text = String.join texts := by
    rw [text, hl]
  refine ⟨hf.stored, hl, ?_, ?_, ?_, fun operation => ⟨fun fault => ?_, fun fault => ?_⟩⟩
  · rw [render_plain, htext]
  · rw [← toList_text, htext]
  · rw [hf.stored.isEmpty_iff, htext]
  · rw [operation.outcome_eq_error_iff hf.stored, hl]
  · exact Operation.held_of_outcome_eq_error

/-- A text for which no slot is left changes nothing, and an empty text needs no slot. -/
example : (run [.collect ["食べ", ""], .extend "て", .push "る", .push ""] : History 2).held.toList =
    ["食べ", "て"] := by
  decide

end JapaneseInflection.Fragments
