import JapaneseInflection.Proofs.Inflection.Paradigm
import JapaneseInflection.Proofs.Text.Concatenation

/-!
# Texts by stem and suffix

What the tables spell piece by piece is here put together: a form of a regular word is its stem and
a suffix that does not depend on the stem, and a form of an irregular verb is a text of its own.

* `GodanEnding.suffix`, `ichidanSuffix`, `naSuffix` and `iSuffix?` are the suffixes of the regular
  classes; `Stem.rootIn` is what stands before the suffix of an i-adjective.
* `GodanEnding.suffix_injective`: outside the euphonic forms no two endings share a suffix.
* `Verb.textIn` and `Adjective.textIn?` are the texts of verbs and adjectives.
* `Conjugator.makes_verb_iff` and `Conjugator.makes_adjective_iff`: these are the texts that
  conjugators make.
-/

namespace JapaneseInflection

/-! ### Suffixes -/

/-- The kana behind the stem of a godan verb: those that its row gives to the form, or the ending
itself. -/
def GodanEnding.suffix (ending : GodanEnding) (form : VerbForm) : String :=
  match ending.row.exponents? form with
  | some (first, second) => first ++ second
  | none => ending.kana

/-- The kana behind the stem of an ichidan verb. -/
def ichidanSuffix (causative : Causative) (form : VerbForm) : String :=
  (ichidanExponent? causative form).getD ""

/-- The kana behind the stem of a na-adjective. -/
def naSuffix (form : AdjectiveForm) : String :=
  (naExponents.lookup form).getD ""

/-- The kana behind the root of an i-adjective, if it has the form. -/
def iSuffix? : AdjectiveForm → Option String
  | .basic => some iBasicExponent
  | form => iExponents.lookup form

theorem Stem.isIrregular_iff {stem : Stem} :
    stem.isIrregular = true ↔ stem.text = "い" ∨ stem.text = "よ" := by
  simp [isIrregular]

/-- The root of an i-adjective with the given stem: the stem, but よ in the past and the negative of
いい and よい. -/
def Stem.rootIn (stem : Stem) (form : AdjectiveForm) : String :=
  if stem.isIrregular = true ∧ (form = .past ∨ form = .negative) then irregularRoot else stem.text

/-! ### Suffixes of one form

What the columns of the table of godan verbs have in common. -/

/-- The suffixes of a form are equally long for all endings. -/
theorem GodanEnding.length_suffix (first second : GodanEnding) (form : VerbForm) :
    (first.suffix form).length = (second.suffix form).length := by
  have hu : ∀ ending ∈ all, (ending.suffix form).length = (u.suffix form).length := by
    cases form <;> decide +kernel
  rw [hu first first.mem_all, hu second second.mem_all]

/-- The forms of godan verbs in which the kana of the ending changes its sound. -/
def VerbForm.IsEuphonic (form : VerbForm) : Prop :=
  form = .te ∨ form = .past ∨ form = .conditional

/-- In all other forms the suffix tells the ending. -/
theorem GodanEnding.suffix_injective {form : VerbForm} (hf : ¬ form.IsEuphonic)
    {first second : GodanEnding} (hs : first.suffix form = second.suffix form) :
    first = second := by
  have hcolumn : ∀ first ∈ all, ∀ second ∈ all,
      first.suffix form = second.suffix form → first = second := by
    cases form
    case te => exact absurd (Or.inl rfl) hf
    case past => exact absurd (Or.inr (Or.inl rfl)) hf
    case conditional => exact absurd (Or.inr (Or.inr rfl)) hf
    all_goals decide +kernel
  exact hcolumn first first.mem_all second second.mem_all hs

/-! ### Texts -/

/-- The text of a verb in a form. -/
def Verb.textIn (causative : Causative) : Verb → VerbForm → String
  | godan stem ending, form => stem.text ++ ending.suffix form
  | ichidan stem, form => stem.text ++ ichidanSuffix causative form
  | suru, form => (irregularForm? "する" suruForms form).getD ""
  | kuru, form => (irregularForm? "来る" kuruForms form).getD ""

/-- The text of an adjective in a form, if it has the form. -/
def Adjective.textIn? : Adjective → AdjectiveForm → Option String
  | i stem _ _, form => (iSuffix? form).map (stem.rootIn form ++ ·)
  | na stem, form => some (stem.text ++ naSuffix form)

/-- Texts of godan verbs in one form are equal exactly when their stems and their suffixes are, as
the suffixes are equally long. -/
theorem Verb.textIn_godan_eq_iff {causative : Causative} {stem other : Stem}
    {first second : GodanEnding} {form : VerbForm} :
    (godan stem first).textIn causative form = (godan other second).textIn causative form ↔
      stem = other ∧ first.suffix form = second.suffix form := by
  constructor
  · intro h
    obtain ⟨hstem, hsuffix⟩ := append_inj_of_length_right (first.length_suffix second form) h
    exact ⟨Stem.ext hstem, hsuffix⟩
  · rintro ⟨rfl, hsuffix⟩
    rw [textIn, textIn, hsuffix]

theorem Word.text?_verb (causative : Causative) (verb : Verb) (form : VerbForm) :
    (Word.verb verb).text? causative (.verb form) = some (verb.textIn causative form) := by
  show (verb.spelling? causative form).map Spelling.text = _
  cases verb with
  | godan stem ending =>
    cases form <;>
      simp [Verb.spelling?, Verb.textIn, GodanEnding.suffix, KanaRow.exponents?, Spelling.text]
  | ichidan stem =>
    obtain ⟨exponent, he⟩ := Option.isSome_iff_exists.1 (ichidanExponent?_isSome causative form)
    rw [Verb.spelling?, Verb.textIn, ichidanSuffix, he]
    exact congrArg some (Spelling.text_singleton _ _)
  | suru => cases form <;> rfl
  | kuru => cases form <;> rfl

theorem Adjective.spelling?_i_eq (stem : Stem) (irregular : Bool)
    (hirregular : irregular = stem.isIrregular) (form : AdjectiveForm) :
    (i stem irregular hirregular).spelling? form =
      (iSuffix? form).map fun exponent => ⟨stem.rootIn form, [exponent]⟩ := by
  unfold Stem.rootIn
  rw [← hirregular]
  cases irregular <;> cases form <;> rfl

theorem Word.text?_adjective (causative : Causative) (adjective : Adjective)
    (form : AdjectiveForm) :
    (Word.adjective adjective).text? causative (.adjective form) = adjective.textIn? form := by
  show (adjective.spelling? form).map Spelling.text = _
  cases adjective with
  | i stem irregular hirregular =>
    rw [Adjective.spelling?_i_eq, Option.map_map]
    exact Option.map_congr fun exponent _ => Spelling.text_singleton _ exponent
  | na stem =>
    obtain ⟨exponent, he⟩ := Option.isSome_iff_exists.1 (naExponents_isSome form)
    rw [Adjective.spelling?, Adjective.textIn?, naSuffix, he]
    exact congrArg some (Spelling.text_singleton _ _)

/-! ### What conjugators make -/

namespace Conjugator

/-- A conjugator makes a text of a word in a form: it succeeds, with fragments that spell it. -/
def Makes (conjugator : Conjugator) (word : Word) (form : Form) (text : String) : Prop :=
  ∃ made, (conjugator.word word form).value = .ok made ∧ made.text = text

variable {conjugator : Conjugator} {text : String}

theorem makes_iff {word : Word} {form : Form} :
    conjugator.Makes word form text ↔ word.text? conjugator.causative form = some text := by
  constructor
  · intro h
    obtain ⟨made, hm, htext⟩ := h
    cases ht : word.text? conjugator.causative form with
    | none =>
      rw [value_word_of_no_text ht] at hm
      cases hm
    | some other =>
      obtain ⟨fragments, hf, rfl⟩ := value_word_of_text ht
      obtain rfl : made = fragments := Except.ok.inj (hm.symm.trans hf)
      rw [htext]
  · exact value_word_of_text

theorem makes_verb_iff {verb : Verb} {form : VerbForm} :
    conjugator.Makes (.verb verb) (.verb form) text ↔
      verb.textIn conjugator.causative form = text := by
  rw [makes_iff, Word.text?_verb, Option.some.injEq]

theorem makes_adjective_iff {adjective : Adjective} {form : AdjectiveForm} :
    conjugator.Makes (.adjective adjective) (.adjective form) text ↔
      adjective.textIn? form = some text := by
  rw [makes_iff, Word.text?_adjective]

end Conjugator

end JapaneseInflection
