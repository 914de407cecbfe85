import JapaneseInflection.Proofs.Toml.DistinctKeys
import JapaneseInflection.Settings.Read

/-!
# Settings override the standard

A table that stores settings replaces the standard ones key by key, or it stores none: a key that
is there must have a value of its own kind, a key that is absent leaves the standard, and all other
keys are passed over.

* `Settings.setting?_eq_some_iff` and `Settings.exists_decides_iff` say this of one key, for a value
  of any kind.
* `Settings.Overrides` relates a table to the settings that it stores, and `Settings.Readable` says
  that it stores some.
* `Settings.ofDatum?_overrides` is the whole account, for tables and for documents.
-/

namespace JapaneseInflection

/-! ### Looking up a key -/

section Lookup

variable {entries others : List (String × Datum)} {key : String}

theorem lookup_eq_none_iff_forall_not_mem :
    entries.lookup key = none ↔ ∀ datum, (key, datum) ∉ entries := by
  rw [List.lookup_eq_none_iff]
  constructor
  · intro h datum hm
    simpa using h _ hm
  · rintro h ⟨other, datum⟩ hm
    rw [bne_iff_ne]
    rintro rfl
    exact h datum hm

/-- In a table with distinct keys the place of an entry does not matter. -/
theorem lookup_eq_some_iff_mem (hn : (entries.map Prod.fst).Nodup) {datum : Datum} :
    entries.lookup key = some datum ↔ (key, datum) ∈ entries := by
  induction entries with
  | nil => simp
  | cons entry rest ih =>
    obtain ⟨other, value⟩ := entry
    obtain ⟨hfirst, hrest⟩ := List.nodup_cons.1 hn
    by_cases hk : key = other
    · subst hk
      have hgone : (key, datum) ∉ rest := fun hm => hfirst (List.mem_map.2 ⟨_, hm, rfl⟩)
      simp [hgone, eq_comm]
    · have hstep : ((other, value) :: rest).lookup key = rest.lookup key := by
        rw [List.lookup_cons, beq_eq_false_iff_ne.2 hk]
      rw [hstep, ih hrest]
      simp [hk]

/-- Tables with distinct keys in which a key has the same values look alike at the key. -/
theorem lookup_eq_lookup (hn : (entries.map Prod.fst).Nodup) (ho : (others.map Prod.fst).Nodup)
    (hsame : ∀ datum, (key, datum) ∈ entries ↔ (key, datum) ∈ others) :
    entries.lookup key = others.lookup key := by
  refine Option.ext fun datum => ?_
  rw [lookup_eq_some_iff_mem hn, lookup_eq_some_iff_mem ho, hsame]

end Lookup

/-! ### Values of a key -/

/-- The datum writes the way to form the causative: it is its name, or a table whose only key is the
name and whose value says nothing. -/
inductive Causative.WrittenAs (saysNothing : Datum → Bool) (causative : Causative) : Datum → Prop
  | name : WrittenAs saysNothing causative (.text causative.dataName)
  | key {value : Datum} (hv : saysNothing value = true) :
      WrittenAs saysNothing causative (.table [(causative.dataName, value)])

theorem Causative.ofDataName?_eq_some_iff {name : String} {causative : Causative} :
    ofDataName? name = some causative ↔ name = causative.dataName := by
  constructor
  · intro h
    have hname := List.find?_some h
    exact (beq_iff_eq.1 hname).symm
  · rintro rfl
    exact ofDataName?_dataName causative

theorem Datum.choice?_eq_some_iff {saysNothing : Datum → Bool} {datum : Datum} {name : String} :
    datum.choice? saysNothing = some name ↔
      datum = .text name ∨ ∃ value, saysNothing value = true ∧ datum = .table [(name, value)] := by
  unfold choice?
  split
  · simp
  · rename_i other value
    by_cases hv : saysNothing value = true
    · simp only [hv, if_true, Option.some.injEq, reduceCtorEq, false_or, table.injEq,
        List.cons.injEq, Prod.mk.injEq, and_true]
      constructor
      · rintro rfl
        exact ⟨value, hv, rfl, rfl⟩
      · rintro ⟨_, -, rfl, -⟩
        rfl
    · simp [hv]
  · rename_i hname hkey
    refine iff_of_false (by simp) ?_
    rintro (rfl | ⟨value, -, rfl⟩)
    · exact hname name rfl
    · exact hkey name value rfl

theorem Causative.ofDatum?_eq_some_iff {saysNothing : Datum → Bool} {datum : Datum}
    {causative : Causative} :
    ofDatum? saysNothing datum = some causative ↔ causative.WrittenAs saysNothing datum := by
  constructor
  · intro h
    obtain ⟨name, hchoice, hname⟩ := Option.bind_eq_some_iff.1 h
    obtain rfl := ofDataName?_eq_some_iff.1 hname
    obtain rfl | ⟨value, hv, rfl⟩ := Datum.choice?_eq_some_iff.1 hchoice
    · exact .name
    · exact .key hv
  · intro h
    refine Option.bind_eq_some_iff.2 ⟨causative.dataName, ?_, ofDataName?_dataName causative⟩
    rw [Datum.choice?_eq_some_iff]
    cases h with
    | name => exact Or.inl rfl
    | key hv => exact Or.inr ⟨_, hv, rfl⟩

theorem Datum.text?_eq_some_iff {datum : Datum} {text : String} :
    datum.text? = some text ↔ datum = .text text := by
  cases datum <;> simp [text?]

namespace Settings

variable {entries others : List (String × Datum)}

/-! ### One key -/

section Key

variable {α : Type} {key : String} {writes : α → Datum → Prop} {read : Datum → Option α}
  {standard value : α}

/-- What a table says of a setting: it is what the value of its key writes, or the standard if the
key is absent. -/
inductive Decides (entries : List (String × Datum)) (key : String) (writes : α → Datum → Prop)
    (standard : α) : α → Prop
  | present {datum : Datum} {value : α} (hm : (key, datum) ∈ entries) (hw : writes value datum) :
      Decides entries key writes standard value
  | absent (hm : ∀ datum, (key, datum) ∉ entries) : Decides entries key writes standard standard

theorem setting?_of_lookup_eq_none (hl : entries.lookup key = none) :
    setting? entries key read standard = some standard := by
  rw [setting?, hl]

theorem setting?_of_lookup_eq_some {datum : Datum} (hl : entries.lookup key = some datum) :
    setting? entries key read standard = read datum := by
  rw [setting?, hl]

theorem setting?_eq_some_iff (hn : (entries.map Prod.fst).Nodup)
    (hread : ∀ datum value, read datum = some value ↔ writes value datum) :
    setting? entries key read standard = some value ↔
      Decides entries key writes standard value := by
  cases hl : entries.lookup key with
  | none =>
    have hno := lookup_eq_none_iff_forall_not_mem.1 hl
    rw [setting?_of_lookup_eq_none hl]
    constructor
    · intro h
      obtain rfl := Option.some.inj h
      exact .absent hno
    · intro h
      cases h with
      | present hm hw => exact absurd hm (hno _)
      | absent => rfl
  | some datum =>
    have hmem := (lookup_eq_some_iff_mem hn).1 hl
    rw [setting?_of_lookup_eq_some hl, hread]
    constructor
    · exact .present hmem
    · intro h
      cases h with
      | present hm hw =>
        have hother := (lookup_eq_some_iff_mem hn).2 hm
        obtain rfl := Option.some.inj (hl.symm.trans hother)
        exact hw
      | absent hno => exact absurd hmem (hno datum)

/-- A table says something of a setting exactly if the key, where it is there, has a value of its
own kind. -/
theorem exists_decides_iff (hn : (entries.map Prod.fst).Nodup) :
    (∃ value, Decides entries key writes standard value) ↔
      ∀ datum, (key, datum) ∈ entries → ∃ value, writes value datum := by
  constructor
  · rintro ⟨value, h⟩ datum hm
    cases h with
    | present hother hw =>
      have hl := (lookup_eq_some_iff_mem hn).2 hm
      have hsame := hl.symm.trans ((lookup_eq_some_iff_mem hn).2 hother)
      obtain rfl := Option.some.inj hsame
      exact ⟨value, hw⟩
    | absent hno => exact absurd hm (hno datum)
  · intro h
    by_cases hm : ∃ datum, (key, datum) ∈ entries
    · obtain ⟨datum, hm⟩ := hm
      obtain ⟨value, hw⟩ := h datum hm
      exact ⟨value, .present hm hw⟩
    · exact ⟨standard, .absent fun datum h => hm ⟨datum, h⟩⟩

theorem setting?_congr (hl : entries.lookup key = others.lookup key) :
    setting? entries key read standard = setting? others key read standard := by
  rw [setting?, setting?, hl]

end Key

/-! ### Tables -/

/-- The settings that a table stores: each is decided by its own key. -/
structure Overrides (saysNothing : Datum → Bool) (entries : List (String × Datum))
    (settings : Settings) : Prop where
  causative : Decides entries causativeKey (Causative.WrittenAs saysNothing) standard.causative
    settings.causative
  questionParticle : Decides entries questionParticleKey (fun text datum => datum = .text text)
    standard.questionParticle settings.questionParticle

/-- Each key of a setting, if it is there, has a value of its own kind. -/
structure Readable (saysNothing : Datum → Bool) (entries : List (String × Datum)) : Prop where
  causative : ∀ datum, (causativeKey, datum) ∈ entries →
    ∃ causative : Causative, causative.WrittenAs saysNothing datum
  questionParticle : ∀ datum, (questionParticleKey, datum) ∈ entries → ∃ text, datum = .text text

variable {saysNothing : Datum → Bool} {settings : Settings}

theorem ofEntries?_eq_some_iff_setting? :
    ofEntries? saysNothing entries = some settings ↔
      setting? entries causativeKey (Causative.ofDatum? saysNothing) standard.causative =
        some settings.causative ∧
      setting? entries questionParticleKey Datum.text? standard.questionParticle =
        some settings.questionParticle := by
  constructor
  · intro h
    obtain ⟨causative, hc, hrest⟩ := Option.bind_eq_some_iff.1 h
    obtain ⟨particle, hp, hmade⟩ := Option.bind_eq_some_iff.1 hrest
    obtain rfl := Option.some.inj hmade
    exact ⟨hc, hp⟩
  · rintro ⟨hc, hp⟩
    refine Option.bind_eq_some_iff.2 ⟨_, hc, Option.bind_eq_some_iff.2 ⟨_, hp, rfl⟩⟩

theorem ofEntries?_eq_some_iff (hn : (entries.map Prod.fst).Nodup) :
    ofEntries? saysNothing entries = some settings ↔ Overrides saysNothing entries settings := by
  rw [ofEntries?_eq_some_iff_setting?,
    setting?_eq_some_iff hn fun _ _ => Causative.ofDatum?_eq_some_iff,
    setting?_eq_some_iff hn fun _ _ => Datum.text?_eq_some_iff]
  exact ⟨fun h => ⟨h.1, h.2⟩, fun h => ⟨h.causative, h.questionParticle⟩⟩

theorem exists_ofEntries?_iff (hn : (entries.map Prod.fst).Nodup) :
    (∃ settings, ofEntries? saysNothing entries = some settings) ↔
      Readable saysNothing entries := by
  simp only [ofEntries?_eq_some_iff hn]
  constructor
  · rintro ⟨settings, h⟩
    exact ⟨(exists_decides_iff hn).1 ⟨_, h.causative⟩,
      (exists_decides_iff hn).1 ⟨_, h.questionParticle⟩⟩
  · intro h
    obtain ⟨causative, hc⟩ := (exists_decides_iff hn).2 h.causative
    obtain ⟨questionParticle, hp⟩ := (exists_decides_iff hn).2 h.questionParticle
    exact ⟨⟨causative, questionParticle⟩, hc, hp⟩

/-- The keys under which settings are stored. -/
def keys : List String := [causativeKey, questionParticleKey]

/-- Tables that agree on the keys of settings store the same settings, if any. -/
theorem ofEntries?_congr (hn : (entries.map Prod.fst).Nodup) (ho : (others.map Prod.fst).Nodup)
    (hsame : ∀ key ∈ keys, ∀ datum, (key, datum) ∈ entries ↔ (key, datum) ∈ others) :
    ofEntries? saysNothing entries = ofEntries? saysNothing others := by
  have hl : ∀ key ∈ keys, entries.lookup key = others.lookup key := fun key hk =>
    lookup_eq_lookup hn ho (hsame key hk)
  have hcausative := hl causativeKey (List.mem_cons_self)
  have hparticle := hl questionParticleKey (List.mem_cons_of_mem _ (List.mem_singleton.2 rfl))
  rw [ofEntries?, ofEntries?, setting?_congr hcausative, setting?_congr hparticle]

/-! ### Documents -/

theorem value_ofToml_of_some {document : String} {entries : List (String × Datum)}
    (hp : Toml.parse? document = some entries) :
    (ofToml document).value =
      (ofEntries? Datum.isVacant entries).elim (.error .invalidSettings) .ok := by
  have hread : ofToml? document = ofEntries? Datum.isVacant entries := by
    rw [ofToml?, hp]
    rfl
  rw [ofToml, hread]
  cases ofEntries? Datum.isVacant entries <;> rfl

theorem value_ofToml_of_none {document : String} (hp : Toml.parse? document = none) :
    (ofToml document).value = .error .invalidSettings := by
  have hread : ofToml? document = none := by
    rw [ofToml?, hp]
    rfl
  rw [ofToml, hread]
  rfl

/-- **A table overrides the standard settings as a whole or not at all.** A table with distinct keys
stores the settings that its keys decide, each for itself: by the value if the key is there, and in
favour of the standard if it is absent. It stores some exactly if each key that is there has a value
of its own kind, so that one bad value makes the whole reading fail, and no other key counts. A
document is read as the table that it spells, and fails if it spells none or the table stores no
settings. The table under which settings are stored gives them back. -/
theorem ofDatum?_overrides :
    (∀ (saysNothing : Datum → Bool) (entries : List (String × Datum)),
      (entries.map Prod.fst).Nodup →
      (∀ settings, ofDatum? saysNothing (.table entries) = some settings ↔
        Overrides saysNothing entries settings) ∧
      ((∃ settings, ofDatum? saysNothing (.table entries) = some settings) ↔
        Readable saysNothing entries) ∧
      (∀ others, (others.map Prod.fst).Nodup →
        (∀ key ∈ keys, ∀ datum, (key, datum) ∈ entries ↔ (key, datum) ∈ others) →
        ofDatum? saysNothing (.table entries) = ofDatum? saysNothing (.table others))) ∧
    (∀ document : String,
      (Toml.parse? document = none ∧ (ofToml document).value = .error .invalidSettings) ∨
      ∃ entries, Toml.parse? document = some entries ∧ (entries.map Prod.fst).Nodup ∧
        (ofToml document).value =
          (ofDatum? Datum.isVacant (.table entries)).elim (.error .invalidSettings) .ok) ∧
    (∀ (saysNothing : Datum → Bool) (settings : Settings),
      ofDatum? saysNothing (.table settings.entries) = some settings) := by
  refine ⟨fun saysNothing entries hn => ⟨fun settings => ?_, ?_, fun others ho hsame => ?_⟩,
    fun document => ?_, fun saysNothing settings => ?_⟩
  · exact ofEntries?_eq_some_iff hn
  · exact exists_ofEntries?_iff hn
  · exact ofEntries?_congr hn ho hsame
  · cases hp : Toml.parse? document with
    | none => exact Or.inl ⟨rfl, value_ofToml_of_none hp⟩
    | some entries =>
      exact Or.inr ⟨entries, rfl, Toml.nodup_keys_of_parse? hp, value_ofToml_of_some hp⟩
  · exact ofEntries?_entries saysNothing settings

end Settings

end JapaneseInflection
