import JapaneseInflection.Proofs.Fragments.History
import JapaneseInflection.Proofs.Inflection.Texts
import JapaneseInflection.Proofs.Phrase.Layout

/-!
# What printing tells of a conjugated word

Fragments pass a field one by one. So a conjugated word may print differently from its own text,
which passes the field as a whole, and print tells where the word is split. It does not do so for
the few forms that are stored in one piece.

* `Fragments.render_eq_iff`: fragments look alike in all fields exactly when they are the same.
* `Fragments.render_eq_text_iff`: they look like their text exactly when they are one.
* `Word.IsBare` lists the forms without anything behind the root, and `Word.length_pieces_iff` says
  that only these are stored in one piece.
* `Conjugator.print_tells_fragments` is the whole account.
-/

namespace JapaneseInflection

/-! ### Fragments in fields -/

namespace Fragments

variable {m n : Nat}

/-- Fragments look alike in all fields exactly when they are the same, in the same order. -/
theorem render_eq_iff {a : Fragments m} {b : Fragments n} :
    (∀ field : Field, a.render field = b.render field) ↔ a.toList = b.toList := by
  constructor
  · intro h
    have hne : ' ' ≠ '*' := by decide
    exact eq_of_join_render_eq hne (fun width => h (.filled ' ' width))
      fun width => h (.filled '*' width)
  · intro h field
    rw [render, render, h]

/-- Fragments look like their text in all fields exactly when there is one of them. -/
theorem render_eq_text_iff {a : Fragments m} :
    (∀ field : Field, a.render field = field.render a.text) ↔ a.toList.length = 1 := by
  constructor
  · intro h
    exact length_eq_one_of_join_render_eq fun width => h (.filled ' ' width)
  · intro h field
    exact join_map_render_of_length h field

end Fragments

/-! ### Forms in one piece -/

/-- Nothing stands behind the root of a form: the irregular verbs are listed in full, and polite and
negative of an ichidan verb are its stem. -/
def Word.IsBare (word : Word) (form : Form) : Prop :=
  word = .verb .suru ∨ word = .verb .kuru ∨
    (word.wordClass = .ichidan ∧ (form = .verb .polite ∨ form = .verb .negative))

/-- The pieces of a spelling are the root alone exactly when nothing stands behind it. -/
theorem Spelling.Fits.length_pieces_eq_one_iff {spelling : Spelling} (hf : spelling.Fits) :
    spelling.pieces.length = 1 ↔ String.join spelling.exponents = "" := by
  rw [hf.pieces_eq, List.length_cons, Nat.add_eq_right, List.length_eq_zero_iff,
    List.filter_eq_nil_iff, join_eq_empty_iff]
  simp

/-- Behind the stem of a godan verb stands the suffix of the form. -/
theorem Verb.join_exponents_godan {causative : Causative} {stem : Stem} {ending : GodanEnding}
    {form : VerbForm} {spelling : Spelling}
    (hs : (godan stem ending).spelling? causative form = some spelling) :
    String.join spelling.exponents = ending.suffix form := by
  cases form <;> cases hs <;> simp [GodanEnding.suffix, KanaRow.exponents?]

theorem GodanEnding.suffix_ne_empty (ending : GodanEnding) (form : VerbForm) :
    ending.suffix form ≠ "" := by
  have hall : ∀ ending ∈ all, ∀ form ∈ VerbForm.all, ending.suffix form ≠ "" := by
    decide +kernel
  exact hall ending ending.mem_all form form.mem_all

theorem ichidanSuffix_eq_empty_iff {causative : Causative} {form : VerbForm} :
    ichidanSuffix causative form = "" ↔ form = .polite ∨ form = .negative := by
  cases causative <;> cases form <;> decide

theorem Verb.join_exponents_ichidan {causative : Causative} {stem : Stem} {form : VerbForm}
    {spelling : Spelling} (hs : (ichidan stem).spelling? causative form = some spelling) :
    String.join spelling.exponents = ichidanSuffix causative form := by
  obtain ⟨exponent, he⟩ := Option.isSome_iff_exists.1 (ichidanExponent?_isSome causative form)
  rw [Verb.spelling?, he] at hs
  cases hs
  rw [ichidanSuffix, he]
  simp

/-- Nothing stands behind the root of a verb exactly in its bare forms. -/
theorem Verb.join_exponents_eq_empty_iff {causative : Causative} {verb : Verb} {form : VerbForm}
    {spelling : Spelling} (hs : verb.spelling? causative form = some spelling) :
    String.join spelling.exponents = "" ↔ (Word.verb verb).IsBare (.verb form) := by
  cases verb with
  | godan stem ending =>
    rw [join_exponents_godan hs]
    refine iff_of_false (ending.suffix_ne_empty form) ?_
    rintro (h | h | ⟨h, -⟩) <;> cases h
  | ichidan stem =>
    rw [join_exponents_ichidan hs, ichidanSuffix_eq_empty_iff]
    simp [Word.IsBare, Word.wordClass, wordClass]
  | suru =>
    obtain ⟨text, ht, -⟩ := exists_suruForm form
    rw [Verb.spelling?, ht] at hs
    cases hs
    exact iff_of_true rfl (Or.inl rfl)
  | kuru =>
    obtain ⟨text, ht, -⟩ := exists_kuruForm form
    rw [Verb.spelling?, ht] at hs
    cases hs
    exact iff_of_true rfl (Or.inr (Or.inl rfl))

/-- Something stands behind the root of an adjective in all its forms. -/
theorem Adjective.join_exponents_ne_empty {adjective : Adjective} {form : AdjectiveForm}
    {spelling : Spelling} (hs : adjective.spelling? form = some spelling) :
    String.join spelling.exponents ≠ "" := by
  have hexponent : ∃ root exponent, spelling = ⟨root, [exponent]⟩ ∧ exponent ≠ "" := by
    cases adjective with
    | i stem irregular hirregular =>
      cases irregular <;> cases form <;> cases hs <;> exact ⟨_, _, rfl, by decide⟩
    | na stem => cases form <;> cases hs <;> exact ⟨_, _, rfl, by decide⟩
  obtain ⟨root, exponent, rfl, hne⟩ := hexponent
  rw [String.join_cons, String.join_nil, String.append_empty]
  exact hne

theorem Adjective.not_isBare (adjective : Adjective) (form : AdjectiveForm) :
    ¬ (Word.adjective adjective).IsBare (.adjective form) := by
  rintro (h | h | ⟨-, h | h⟩) <;> cases h

/-- A form that a word has is stored in one piece exactly when it is bare. -/
theorem Word.length_pieces_iff {causative : Causative} {word : Word} {form : Form}
    {spelling : Spelling} (hs : word.spelling? causative form = some spelling) :
    spelling.pieces.length = 1 ↔ word.IsBare form := by
  obtain ⟨-, other, ho, hfits⟩ | ⟨-, hnone⟩ := word.spelling?_cases causative form
  · obtain rfl : other = spelling := Option.some.inj (ho.symm.trans hs)
    rw [hfits.length_pieces_eq_one_iff]
    rcases word with v | a <;> rcases form with f | f
    · exact Verb.join_exponents_eq_empty_iff hs
    · cases hs
    · cases hs
    · exact iff_of_false (Adjective.join_exponents_ne_empty hs) (a.not_isBare f)
  · rw [hnone] at hs
    cases hs

/-! ### Words -/

namespace Conjugator

/-- A form that a word has is made, and it is made in one piece exactly when it is bare. -/
theorem exists_made_length_iff (conjugator : Conjugator) {word : Word} {form : Form}
    (hf : word.wordClass.HasForm form) :
    ∃ made, (conjugator.word word form).value = .ok made ∧
      (made.toList.length = 1 ↔ word.IsBare form) := by
  obtain ⟨spelling, made, hs, -, hm, -, hall, -⟩ := exists_made_of_hasForm conjugator hf
  refine ⟨made, hm, ?_⟩
  rw [hall]
  exact Word.length_pieces_iff hs

/-- **Print tells the fragments of a conjugated word and nothing else.** After any operations, a
field lays out the fragments that are held one after the other, each on its own, so that the lengths
add up. Fragments of any capacities look alike in all fields exactly when they are the same, in the
same order. So a form that a word has prints as its own text does, on its own or as a part of a
phrase, exactly when it is stored in one fragment, and this is so exactly in the bare forms. -/
theorem print_tells_fragments :
    (∀ (capacity : Nat) (operations : List Fragments.Operation) (field : Field),
      let history : Fragments.History capacity := Fragments.run operations
      let texts := (Fragments.givenBy history.performed).filter (· ≠ "")
      history.held.render field = String.join (texts.map field.render) ∧
      (history.held.render field).length = (texts.map fun text =>
        max field.width (field.precision.elim text.length (min · text.length))).sum) ∧
    (∀ (m n : Nat) (operations others : List Fragments.Operation),
      let first : Fragments.History m := Fragments.run operations
      let second : Fragments.History n := Fragments.run others
      (∀ field : Field, first.held.render field = second.held.render field) ↔
        first.held.toList = second.held.toList) ∧
    (∀ (settings : Settings) (word : Word) (form : Form), word.wordClass.HasForm form →
      ∃ made, ((ofSettings settings).word word form).value = .ok made ∧
        ((∀ field : Field, made.render field = field.render (made.render .plain)) ↔
          made.toList.length = 1) ∧
        (∀ kind : PartKind,
          (∀ field : Field, made.render field = (Part.leaf kind (made.render .plain)).render field) ↔
            made.toList.length = 1) ∧
        (made.toList.length = 1 ↔ word.IsBare form)) := by
  refine ⟨fun capacity operations field => ?_, fun m n operations others => ?_,
    fun settings word form hf => ?_⟩
  · intro history texts
    have hl : history.held.toList = texts := (Fragments.faithful_run operations).toList_eq
    have hprint : history.held.render field = String.join (texts.map field.render) := by
      rw [Fragments.render, hl]
    exact ⟨hprint, by rw [hprint, length_join_map_render]⟩
  · exact Fragments.render_eq_iff
  · obtain ⟨made, hm, hbare⟩ := exists_made_length_iff (ofSettings settings) hf
    have hprint : (∀ field : Field, made.render field = field.render (made.render .plain)) ↔
        made.toList.length = 1 := by
      rw [Fragments.render_plain]
      exact Fragments.render_eq_text_iff
    -- a part of a phrase that is a text passes the field as a whole, of whatever kind it is
    exact ⟨made, hm, hprint, fun kind => hprint, hbare⟩

end Conjugator

end JapaneseInflection
