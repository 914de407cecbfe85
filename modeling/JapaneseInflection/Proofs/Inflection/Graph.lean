import JapaneseInflection.Proofs.Inflection.Paradigm
import JapaneseInflection.Proofs.Lexicon.RoundTrip

/-!
# Paradigms are graphs

The paradigm of a word says of each form what an attempt to conjugate the word into it says: the
text, or that there is none.

* `Paradigm.map_fst_toList`: a paradigm lists its forms in order of declaration.
* `Paradigm.IsGraph` relates a paradigm to the attempts that it was filled with.
* `Conjugator.paradigm_isGraph`: the paradigms of verbs and of adjectives are graphs of the
  conjugator that filled them.
-/

namespace JapaneseInflection

namespace Paradigm

variable {F : Type}

theorem contains_of_get? {paradigm : Paradigm F} {form : F} {text : String}
    (hg : paradigm.get? form = some text) : paradigm.contains form = true := by
  rw [contains, hg]
  rfl

theorem not_contains_of_get? {paradigm : Paradigm F} {form : F}
    (hg : paradigm.get? form = none) : ¬ paradigm.contains form = true := by
  rw [contains, hg]
  exact Bool.false_ne_true

/-- Attempts are told by texts: the attempt at a form makes its text, or fails if it has none. -/
structure Told (attempt : F → Recorded (Except Error Inflected)) (text? : F → Option String) :
    Prop where
  made : ∀ form text, text? form = some text →
    ∃ made, (attempt form).value = .ok made ∧ made.text = text
  refused : ∀ form, text? form = none → ∃ cause, (attempt form).value = .error cause

section Told

variable {attempt : F → Recorded (Except Error Inflected)} {text? : F → Option String} {form : F}

theorem Told.text?_of_ok (ht : Told attempt text?) {made : Inflected}
    (hm : (attempt form).value = .ok made) : text? form = some made.text := by
  cases h : text? form with
  | none =>
    obtain ⟨cause, he⟩ := ht.refused form h
    rw [hm] at he
    cases he
  | some text =>
    obtain ⟨other, ho, rfl⟩ := ht.made form text h
    obtain rfl : made = other := Except.ok.inj (hm.symm.trans ho)
    rfl

theorem Told.text?_of_error (ht : Told attempt text?) {cause : Error}
    (he : (attempt form).value = .error cause) : text? form = none := by
  cases h : text? form with
  | none => rfl
  | some text =>
    obtain ⟨made, hm, -⟩ := ht.made form text h
    rw [he] at hm
    cases hm

end Told

variable [DecidableEq F] [FormSystem F]

/-- A paradigm lists the forms that it contains, in order of declaration. -/
theorem map_fst_toList (paradigm : Paradigm F) :
    paradigm.toList.map Prod.fst = (FormSystem.all : List F).filter paradigm.contains := by
  rw [toList]
  induction (FormSystem.all : List F) with
  | nil => rfl
  | cons form forms ih =>
    cases hg : paradigm.get? form with
    | none =>
      rw [List.filterMap_cons_none (by rw [hg]; rfl),
        List.filter_cons_of_neg (not_contains_of_get? hg)]
      exact ih
    | some text =>
      rw [List.filterMap_cons_some (b := (form, text)) (by rw [hg]; rfl), List.map_cons,
        List.filter_cons_of_pos (contains_of_get? hg), ih]

theorem get?_of_mem_toList {paradigm : Paradigm F} {entry : F × String}
    (hentry : entry ∈ paradigm.toList) : paradigm.get? entry.1 = some entry.2 := by
  obtain ⟨form, -, h⟩ := List.mem_filterMap.1 hentry
  obtain ⟨text, ht, rfl⟩ := Option.map_eq_some_iff.1 h
  exact ht

/-- The number of entries is that of the forms that are contained. -/
theorem size_eq (paradigm : Paradigm F) :
    paradigm.size = ((FormSystem.all : List F).filter paradigm.contains).length := by
  rw [size, ← map_fst_toList, List.length_map]

/-- A paradigm contains a form exactly when the attempt at it succeeds, and holds what the attempt
makes. It lists these forms once each, in order of declaration, and its dictionary form is the text
of the form by which words are cited. -/
structure IsGraph (paradigm : Paradigm F) (attempt : F → Recorded (Except Error Inflected))
    (citation : F) : Prop where
  contains_iff : ∀ form,
    paradigm.contains form = true ↔ ∃ made, (attempt form).value = .ok made
  get?_of_ok : ∀ form made,
    (attempt form).value = .ok made → paradigm.get? form = some made.text
  get?_of_error : ∀ form cause,
    (attempt form).value = .error cause → paradigm.get? form = none
  forms_eq : paradigm.toList.map Prod.fst = (FormSystem.all : List F).filter paradigm.contains
  forms_nodup : (paradigm.toList.map Prod.fst).Nodup
  texts_eq : ∀ entry ∈ paradigm.toList, paradigm.get? entry.1 = some entry.2
  size_eq : paradigm.size = ((FormSystem.all : List F).filter paradigm.contains).length
  not_isEmpty : paradigm.isEmpty = false
  citation_eq : paradigm.get? citation = some paradigm.dictionary

/-- A paradigm that holds the texts of the attempts, and cites one of them, is a graph. -/
theorem isGraph_of_get? {paradigm : Paradigm F}
    {attempt : F → Recorded (Except Error Inflected)} {citation : F} {text? : F → Option String}
    (ht : Told attempt text?) (hget : ∀ form, paradigm.get? form = text? form)
    (hcitation : text? citation = some paradigm.dictionary)
    (hall : ∀ form : F, form ∈ (FormSystem.all : List F))
    (hnodup : (FormSystem.all : List F).Nodup) : paradigm.IsGraph attempt citation := by
  have hok : ∀ form made, (attempt form).value = .ok made →
      paradigm.get? form = some made.text :=
    fun form made hm => (hget form).trans (ht.text?_of_ok hm)
  have herror : ∀ form cause, (attempt form).value = .error cause → paradigm.get? form = none :=
    fun form cause he => (hget form).trans (ht.text?_of_error he)
  have hcontains : ∀ form, paradigm.contains form = true ↔
      ∃ made, (attempt form).value = .ok made := by
    intro form
    cases hv : (attempt form).value with
    | ok made => exact iff_of_true (contains_of_get? (hok form made hv)) ⟨made, rfl⟩
    | error cause => exact iff_of_false (not_contains_of_get? (herror form cause hv)) nofun
  have hcited : paradigm.get? citation = some paradigm.dictionary := by
    rw [hget, hcitation]
  refine ⟨hcontains, hok, herror, paradigm.map_fst_toList, ?_,
    fun entry hentry => get?_of_mem_toList hentry, paradigm.size_eq, ?_, hcited⟩
  · rw [map_fst_toList]
    exact hnodup.filter _
  · -- the form by which words are cited is always there
    have hmem : citation ∈ (FormSystem.all : List F).filter paradigm.contains :=
      List.mem_filter.2 ⟨hall citation, contains_of_get? hcited⟩
    have hpos := List.length_pos_of_mem hmem
    rw [← size_eq] at hpos
    exact beq_false_of_ne (Nat.ne_of_gt hpos)

end Paradigm

namespace Conjugator

/-- A verb has a paradigm, and it is the graph of the conjugator. -/
theorem exists_verb_isGraph (conjugator : Conjugator) (verb : Verb) :
    ∃ paradigm, (conjugator.verbParadigm verb).value = .ok paradigm ∧
      paradigm.IsGraph (conjugator.verb verb) .dictionary := by
  obtain ⟨paradigm, hp, hdictionary, hget⟩ := conjugator.exists_verbParadigm verb
  have ht : Paradigm.Told (conjugator.verb verb)
      fun form => (Word.verb verb).text? conjugator.causative (.verb form) :=
    ⟨fun form text h => value_word_of_text h, fun form h => ⟨_, value_word_of_no_text h⟩⟩
  refine ⟨paradigm, hp, Paradigm.isGraph_of_get? ht hget ?_ VerbForm.mem_all ?_⟩
  · rw [hdictionary]
    exact (Word.verb verb).text?_citationForm conjugator.causative
  · show VerbForm.all.Nodup
    decide

/-- An adjective has a paradigm, and it is the graph of the conjugator. -/
theorem exists_adjective_isGraph (conjugator : Conjugator) (adjective : Adjective) :
    ∃ paradigm, (conjugator.adjectiveParadigm adjective).value = .ok paradigm ∧
      paradigm.IsGraph (conjugator.adjective adjective) .basic := by
  obtain ⟨paradigm, hp, hdictionary, hget⟩ := conjugator.exists_adjectiveParadigm adjective
  have ht : Paradigm.Told (conjugator.adjective adjective)
      fun form => (Word.adjective adjective).text? conjugator.causative (.adjective form) :=
    ⟨fun form text h => value_word_of_text h, fun form h => ⟨_, value_word_of_no_text h⟩⟩
  refine ⟨paradigm, hp,
    Paradigm.isGraph_of_get? ht hget hdictionary AdjectiveForm.mem_all ?_⟩
  show AdjectiveForm.all.Nodup
  decide

/-- **Paradigms are graphs.** Every word has a paradigm under all settings: it holds for each form
of the word what conjugating the word into the form makes, and its dictionary form is the
dictionary form of a verb and the basic form of an adjective. -/
theorem paradigm_isGraph (settings : Settings) :
    (∀ verb : Verb, ∃ paradigm,
      ((ofSettings settings).verbParadigm verb).value = .ok paradigm ∧
        paradigm.IsGraph ((ofSettings settings).verb verb) .dictionary) ∧
    (∀ adjective : Adjective, ∃ paradigm,
      ((ofSettings settings).adjectiveParadigm adjective).value = .ok paradigm ∧
        paradigm.IsGraph ((ofSettings settings).adjective adjective) .basic) :=
  ⟨(ofSettings settings).exists_verb_isGraph, (ofSettings settings).exists_adjective_isGraph⟩

end Conjugator

end JapaneseInflection
