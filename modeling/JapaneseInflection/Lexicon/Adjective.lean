import JapaneseInflection.Lexicon.Stem

/-!
# Adjectives

An adjective is an i-adjective or a na-adjective, with a stem.

* `Adjective.i?` and `Adjective.na?` build an adjective from its parts.
* `Adjective.ofDictionary?` builds an adjective of a given class from its dictionary form.
* `Adjective.isIrregular` holds of いい and よい, which conjugate from the root よ: the mark that an
  i-adjective carries is that of its stem.
-/

namespace JapaneseInflection

/-- Test for the stems of いい and よい. -/
def Stem.isIrregular (stem : Stem) : Bool :=
  stem.text == "い" || stem.text == "よ"

/-- An adjective that can be conjugated. -/
inductive Adjective where
  /-- An adjective like 高い, whose ending is always い. The mark is set for いい and よい only,
  which conjugate from the root よ. -/
  | i (stem : Stem) (irregular : Bool) (marked : irregular = stem.isIrregular)
  /-- An adjective like 静か, which stands before a noun with な. -/
  | na (stem : Stem)
  deriving DecidableEq, Hashable

namespace Adjective

/-- The ending of i-adjectives. -/
def iEnding : String := "い"

/-- The i-adjective with the given stem and ending. The stem is looked at first. -/
def i? (stem ending : String) : Except Error Adjective := do
  let stem ← Stem.ofText? .iAdjective stem
  if ending = iEnding then .ok (i stem stem.isIrregular rfl)
  else .error (.invalidLexeme (.word .iAdjective) ending .notIAdjectiveEnding)

/-- The adjective いい. -/
def ii : Adjective :=
  i ⟨"い", by decide⟩ true rfl

/-- The na-adjective with the given stem. -/
def na? (stem : String) : Except Error Adjective := do
  let stem ← Stem.ofText? .naAdjective stem
  .ok (na stem)

/-- The adjective of the given class with the given dictionary form. A na-adjective may be
written with or without a な at its end. -/
def ofDictionary? (wordClass : WordClass) (dictionary : String) : Except Error Adjective :=
  match wordClass with
  | .iAdjective => i? (splitFinal dictionary).1 (splitFinal dictionary).2
  | .naAdjective => na? (dropFinal 'な' dictionary)
  | .godan | .ichidan | .suru | .kuru =>
    .error (.invalidLexeme (.word wordClass) dictionary .notAdjectiveClass)

/-- The class of an adjective. -/
def wordClass : Adjective → WordClass
  | i _ _ _ => .iAdjective
  | na _ => .naAdjective

/-- The written stem of an adjective. -/
def stem : Adjective → Stem
  | i stem _ _ => stem
  | na stem => stem

/-- The ending of an i-adjective. -/
def ending? : Adjective → Option String
  | i _ _ _ => some iEnding
  | na _ => none

/-- Test for いい and よい. -/
def isIrregular : Adjective → Bool
  | i _ irregular _ => irregular
  | na _ => false

/-- I-adjectives are equal when their stems are, as the stem decides the mark. -/
theorem i_eq_i_iff {stem other : Stem} {irregular mark : Bool}
    {hirregular : irregular = stem.isIrregular} {hmark : mark = other.isIrregular} :
    i stem irregular hirregular = i other mark hmark ↔ stem = other := by
  constructor
  · intro hsame
    exact (i.inj hsame).1
  · rintro rfl
    subst hirregular hmark
    rfl

theorem wordClass_isVerb (adjective : Adjective) : adjective.wordClass.isVerb = false := by
  cases adjective <;> rfl

end Adjective

end JapaneseInflection
