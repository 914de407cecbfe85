import JapaneseInflection.Lexicon.GodanEnding
import JapaneseInflection.Lexicon.Stem

/-!
# Verbs

A verb is godan or ichidan, with a stem, or one of the two irregular verbs.

* `Verb.godan?`, `Verb.ichidan?` and `Verb.irregular?` build a verb from its parts.
* `Verb.ofDictionary?` builds a verb of a given class from its dictionary form, and
  `Verb.dictionary` is that form.
-/

namespace JapaneseInflection

/-- A verb that can be conjugated. -/
inductive Verb where
  /-- A verb like 話す, whose ending is one of nine. -/
  | godan (stem : Stem) (ending : GodanEnding)
  /-- A verb like 食べる, whose ending is always る. -/
  | ichidan (stem : Stem)
  /-- The verb する. -/
  | suru
  /-- The verb 来る. -/
  | kuru
  deriving DecidableEq, Hashable

namespace Verb

/-- The ending of ichidan verbs. -/
def ichidanEnding : String := "る"

/-- The godan verb with the given stem and ending. The stem is looked at first. -/
def godan? (stem ending : String) : Except Error Verb := do
  let stem ← Stem.ofText? .godan stem
  match GodanEnding.ofText? ending with
  | some kana => .ok (godan stem kana)
  | none => .error (.invalidLexeme (.word .godan) ending .notGodanEnding)

/-- The ichidan verb with the given stem and ending. The stem is looked at first. -/
def ichidan? (stem ending : String) : Except Error Verb := do
  let stem ← Stem.ofText? .ichidan stem
  if ending = ichidanEnding then .ok (ichidan stem)
  else .error (.invalidLexeme (.word .ichidan) ending .notIchidanEnding)

/-- The irregular verb with the given dictionary form. -/
def irregular? (dictionary : String) : Except Error Verb :=
  if dictionary = "する" then .ok suru
  else if dictionary = "来る" then .ok kuru
  else .error (.invalidLexeme (.word .suru) dictionary .notIrregular)

/-- The class of a verb. -/
def wordClass : Verb → WordClass
  | godan _ _ => .godan
  | ichidan _ => .ichidan
  | suru => .suru
  | kuru => .kuru

/-- The verb of the given class with the given dictionary form. -/
def ofDictionary? (wordClass : WordClass) (dictionary : String) : Except Error Verb :=
  match wordClass with
  | .godan => godan? (splitFinal dictionary).1 (splitFinal dictionary).2
  | .ichidan => ichidan? (splitFinal dictionary).1 (splitFinal dictionary).2
  | .suru | .kuru => do
    let verb ← irregular? dictionary
    if verb.wordClass = wordClass then .ok verb
    else .error (.invalidLexeme (.word wordClass) dictionary .otherIrregular)
  | .iAdjective | .naAdjective =>
    .error (.invalidLexeme (.word wordClass) dictionary .notVerbClass)

/-- The stem of a regular verb. -/
def stem? : Verb → Option Stem
  | godan stem _ => some stem
  | ichidan stem => some stem
  | suru | kuru => none

/-- The ending of a regular verb. -/
def ending? : Verb → Option String
  | godan _ ending => some ending.kana
  | ichidan _ => some ichidanEnding
  | suru | kuru => none

/-- The dictionary form of a verb. -/
def dictionary : Verb → String
  | godan stem ending => stem.text ++ ending.kana
  | ichidan stem => stem.text ++ ichidanEnding
  | suru => "する"
  | kuru => "来る"

theorem wordClass_isVerb (verb : Verb) : verb.wordClass.isVerb = true := by
  cases verb <;> rfl

end Verb

end JapaneseInflection
