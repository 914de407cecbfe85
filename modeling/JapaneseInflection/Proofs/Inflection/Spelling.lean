import JapaneseInflection.Fragments.Lemmas
import JapaneseInflection.Inflection.Conjugator
import JapaneseInflection.Proofs.Text.Concatenation

/-!
# What the tables spell and what is stored of it

A conjugator looks a form up in the tables and stores the spelling that it finds. The facts here
are the only ones in which a table or a store is opened: everything else about conjugation is
told through them.

* `Word.spelling?` is what the tables say of a word and a form, of whichever kind they are, and
  `Word.spelling?_isSome_iff` says when they say something: `WordClass.HasForm` decides it from
  the class alone.
* `Spelling.Fits` is what every spelling found in the tables satisfies, so that it can be stored.
* `Conjugator.value_word_of_some` and `Conjugator.value_word_of_none`: a conjugator makes
  fragments with the text of the spelling, or refuses the form.
-/

namespace JapaneseInflection

/-! ### Spellings -/

namespace Spelling

/-- The pieces of a spelling that take a slot. -/
def pieces (spelling : Spelling) : List String :=
  (spelling.root :: spelling.exponents).filter (· ≠ "")

/-- What a spelling reads. -/
def text (spelling : Spelling) : String :=
  spelling.root ++ String.join spelling.exponents

/-- The root is not empty, and the exponents are at most two. -/
structure Fits (spelling : Spelling) : Prop where
  root_ne : spelling.root ≠ ""
  exponents_le : spelling.exponents.length ≤ 2

theorem join_pieces (spelling : Spelling) : String.join spelling.pieces = spelling.text := by
  rw [pieces, join_filter_ne_empty, String.join_cons, text]

theorem text_singleton (root exponent : String) :
    (Spelling.mk root [exponent]).text = root ++ exponent := by
  rw [text, String.join_cons, String.join_nil, String.append_empty]

theorem Fits.pieces_eq {spelling : Spelling} (hf : spelling.Fits) :
    spelling.pieces = spelling.root :: spelling.exponents.filter (· ≠ "") := by
  rw [pieces, List.filter_cons_of_pos (by simpa using hf.root_ne)]

theorem Fits.length_pieces {spelling : Spelling} (hf : spelling.Fits) :
    1 ≤ spelling.pieces.length ∧ spelling.pieces.length ≤ 3 := by
  have hl := List.length_filter_le (fun text => decide (text ≠ "")) spelling.exponents
  have he := hf.exponents_le
  rw [hf.pieces_eq, List.length_cons]
  omega

theorem Fits.text_ne {spelling : Spelling} (hf : spelling.Fits) : spelling.text ≠ "" := by
  intro h
  have hl : spelling.root.length + (String.join spelling.exponents).length = 0 := by
    rw [← String.length_append, ← text, h]
    rfl
  exact hf.root_ne (String.length_eq_zero_iff.1 (by omega))

end Spelling

/-- A spelling that fits is stored: its root takes the first slot, and no push runs out of
slots. -/
theorem Conjugator.store_of_fits {spelling : Spelling} (hf : spelling.Fits) :
    ∃ made : Inflected, store spelling = .ok made ∧ made.WellStored ∧
      made.toList = spelling.pieces := by
  have hroom : (Fragments.empty : Inflected).size < 3 := Nat.zero_lt_succ 2
  let first : Inflected := Fragments.empty.store spelling.root hroom
  have hfirst : first.toList = [spelling.root] := by
    rw [Fragments.toList_store, Fragments.toList_empty, List.nil_append]
  have hstored : first.WellStored := Fragments.wellStored_empty.store hf.root_ne hroom
  have hstore : store spelling = (first.pushAll spelling.exponents).mapError .storage := by
    rw [store, Fragments.single_of_room hf.root_ne hroom]
    rfl
  obtain ⟨-, made, hmade, hkept, hall⟩ | ⟨hmany, -⟩ := hstored.pushAll_cases spelling.exponents
  · refine ⟨made, ?_, hkept, ?_⟩
    · rw [hstore, hmade]
      rfl
    · rw [hall, hfirst, hf.pieces_eq, List.singleton_append]
  · have hl := hf.length_pieces.2
    rw [hf.pieces_eq, List.length_cons] at hl
    rw [hfirst, List.length_singleton] at hmany
    omega

/-! ### The tables -/

theorem KanaRow.exponents?_eq_none_iff (row : KanaRow) (form : VerbForm) :
    row.exponents? form = none ↔ form = .dictionary := by
  cases form <;> simp [KanaRow.exponents?]

theorem ichidanExponent?_isSome (causative : Causative) (form : VerbForm) :
    (ichidanExponent? causative form).isSome := by
  cases causative <;> cases form <;> rfl

/-- The form of する is listed, and it is not empty. -/
theorem exists_suruForm (form : VerbForm) :
    ∃ text, irregularForm? "する" suruForms form = some text ∧ text ≠ "" := by
  cases form <;> exact ⟨_, rfl, by decide⟩

/-- The form of 来る is listed, and it is not empty. -/
theorem exists_kuruForm (form : VerbForm) :
    ∃ text, irregularForm? "来る" kuruForms form = some text ∧ text ≠ "" := by
  cases form <;> exact ⟨_, rfl, by decide⟩

theorem naExponents_isSome (form : AdjectiveForm) : (naExponents.lookup form).isSome := by
  cases form <;> rfl

/-- Every form of a verb is spelled, and its spelling fits. -/
theorem Verb.exists_spelling (causative : Causative) (verb : Verb) (form : VerbForm) :
    ∃ spelling, verb.spelling? causative form = some spelling ∧ spelling.Fits := by
  cases verb with
  | godan stem ending =>
    by_cases hd : form = .dictionary
    · subst hd
      exact ⟨⟨stem.text, [ending.kana]⟩, rfl, stem.text_ne, Nat.le_succ 1⟩
    · obtain ⟨pair, hpair⟩ := Option.ne_none_iff_exists'.1
        (mt (KanaRow.exponents?_eq_none_iff ending.row form).1 hd)
      refine ⟨⟨stem.text, [pair.1, pair.2]⟩, ?_, stem.text_ne, Nat.le_refl 2⟩
      rw [Verb.spelling?, hpair]
      · rfl
      · exact hd
  | ichidan stem =>
    obtain ⟨exponent, hexponent⟩ := Option.isSome_iff_exists.1
      (ichidanExponent?_isSome causative form)
    refine ⟨⟨stem.text, [exponent]⟩, ?_, stem.text_ne, Nat.le_succ 1⟩
    rw [Verb.spelling?, hexponent]
    rfl
  | suru =>
    obtain ⟨text, htext, hne⟩ := exists_suruForm form
    refine ⟨⟨text, []⟩, ?_, hne, Nat.zero_le 2⟩
    rw [Verb.spelling?, htext]
    rfl
  | kuru =>
    obtain ⟨text, htext, hne⟩ := exists_kuruForm form
    refine ⟨⟨text, []⟩, ?_, hne, Nat.zero_le 2⟩
    rw [Verb.spelling?, htext]
    rfl

/-- The exponent of an i-adjective follows its stem, or the irregular root. -/
theorem Adjective.spelling?_i (stem : Stem) (irregular : Bool)
    (hirregular : irregular = stem.isIrregular) (form : AdjectiveForm) :
    (∃ root exponent, (i stem irregular hirregular).spelling? form = some ⟨root, [exponent]⟩ ∧
      (root = stem.text ∨ root = irregularRoot) ∧ form ≠ .te) ∨
    ((i stem irregular hirregular).spelling? form = none ∧ form = .te) := by
  cases irregular <;> cases form
  case false.te => exact Or.inr ⟨rfl, rfl⟩
  case true.te => exact Or.inr ⟨rfl, rfl⟩
  case true.past => exact Or.inl ⟨_, _, rfl, Or.inr rfl, by decide⟩
  case true.negative => exact Or.inl ⟨_, _, rfl, Or.inr rfl, by decide⟩
  all_goals exact Or.inl ⟨_, _, rfl, Or.inl rfl, by decide⟩

/-- A form of an adjective is spelled unless it is the te of an i-adjective, and a spelling
fits. -/
theorem Adjective.spelling?_cases (adjective : Adjective) (form : AdjectiveForm) :
    (∃ spelling, adjective.spelling? form = some spelling ∧ spelling.Fits ∧
      ¬(adjective.wordClass = .iAdjective ∧ form = .te)) ∨
    (adjective.spelling? form = none ∧ adjective.wordClass = .iAdjective ∧ form = .te) := by
  cases adjective with
  | i stem irregular hirregular =>
    obtain ⟨root, exponent, hs, hroot, hte⟩ | ⟨hs, hte⟩ :=
      Adjective.spelling?_i stem irregular hirregular form
    · refine Or.inl ⟨_, hs, ⟨?_, Nat.le_succ 1⟩, fun h => hte h.2⟩
      rcases hroot with rfl | rfl
      · exact stem.text_ne
      · show irregularRoot ≠ ""
        decide
    · exact Or.inr ⟨hs, rfl, hte⟩
  | na stem =>
    obtain ⟨exponent, hexponent⟩ := Option.isSome_iff_exists.1 (naExponents_isSome form)
    refine Or.inl ⟨⟨stem.text, [exponent]⟩, ?_, ⟨stem.text_ne, Nat.le_succ 1⟩, by simp [wordClass]⟩
    rw [Adjective.spelling?, hexponent]
    rfl

/-! ### Words -/

/-- What the tables say of a word and a form. They say nothing of a form of the other kind. -/
def Word.spelling? (causative : Causative) : Word → Form → Option Spelling
  | .verb v, .verb f => v.spelling? causative f
  | .adjective a, .adjective f => a.spelling? f
  | .verb _, .adjective _ => none
  | .adjective _, .verb _ => none

/-- The forms that the words of a class have: those of their own kind, but no i-adjective has a
te. -/
def WordClass.HasForm (wordClass : WordClass) (form : Form) : Prop :=
  form.isVerbal = wordClass.isVerb ∧ ¬(wordClass = .iAdjective ∧ form = .adjective .te)

instance (wordClass : WordClass) (form : Form) : Decidable (wordClass.HasForm form) :=
  inferInstanceAs (Decidable (_ ∧ _))

/-- The tables spell the forms that the class of a word has and no others, and what they spell
fits. -/
theorem Word.spelling?_cases (causative : Causative) (word : Word) (form : Form) :
    (word.wordClass.HasForm form ∧
      ∃ spelling, word.spelling? causative form = some spelling ∧ spelling.Fits) ∨
    (¬ word.wordClass.HasForm form ∧ word.spelling? causative form = none) := by
  rcases word with v | a <;> rcases form with f | f
  · refine Or.inl ⟨⟨v.wordClass_isVerb.symm, ?_⟩, v.exists_spelling causative f⟩
    intro h
    cases h.2
  · refine Or.inr ⟨fun h => ?_, rfl⟩
    have hkind : false = v.wordClass.isVerb := h.1
    rw [v.wordClass_isVerb] at hkind
    cases hkind
  · refine Or.inr ⟨fun h => ?_, rfl⟩
    have hkind : true = a.wordClass.isVerb := h.1
    rw [a.wordClass_isVerb] at hkind
    cases hkind
  · obtain ⟨spelling, hs, hfits, hte⟩ | ⟨hs, hclass, rfl⟩ := a.spelling?_cases f
    · refine Or.inl ⟨⟨a.wordClass_isVerb.symm, fun h => hte ⟨h.1, ?_⟩⟩, spelling, hs, hfits⟩
      exact Form.adjective.inj h.2
    · exact Or.inr ⟨fun h => h.2 ⟨hclass, rfl⟩, hs⟩

theorem Word.spelling?_isSome_iff (causative : Causative) (word : Word) (form : Form) :
    (word.spelling? causative form).isSome ↔ word.wordClass.HasForm form := by
  obtain ⟨h, spelling, hs, -⟩ | ⟨h, hs⟩ := word.spelling?_cases causative form <;> simp [h, hs]

namespace Conjugator

theorem value_word (conjugator : Conjugator) (word : Word) (form : Form) :
    (conjugator.word word form).value =
      match word.spelling? conjugator.causative form with
      | some spelling => store spelling
      | none => .error (.unsupportedForm word.wordClass form.keyword) := by
  rcases word with v | a <;> rcases form with f | f
  · exact conjugator.value_verb v f
  · rfl
  · rfl
  · exact conjugator.value_adjective a f

variable {conjugator : Conjugator} {word : Word} {form : Form}

/-- A form that is spelled is made: its fragments are the pieces of the spelling. -/
theorem value_word_of_some {spelling : Spelling}
    (hs : word.spelling? conjugator.causative form = some spelling) :
    ∃ made : Inflected, (conjugator.word word form).value = .ok made ∧ made.WellStored ∧
      made.toList = spelling.pieces ∧ made.text = spelling.text := by
  obtain ⟨-, other, ho, hfits⟩ | ⟨-, hnone⟩ := word.spelling?_cases conjugator.causative form
  · obtain rfl : other = spelling := Option.some.inj (ho.symm.trans hs)
    obtain ⟨made, hmade, hkept, hall⟩ := store_of_fits hfits
    refine ⟨made, ?_, hkept, hall, ?_⟩
    · rw [value_word, hs]
      exact hmade
    · rw [Fragments.text, hall, Spelling.join_pieces]
  · rw [hnone] at hs
    cases hs

/-- A form that is not spelled is refused. -/
theorem value_word_of_none (hs : word.spelling? conjugator.causative form = none) :
    (conjugator.word word form).value =
      .error (.unsupportedForm word.wordClass form.keyword) := by
  rw [value_word, hs]

end Conjugator

end JapaneseInflection
