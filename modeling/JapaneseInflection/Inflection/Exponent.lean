import JapaneseInflection.Inflection.Form
import JapaneseInflection.Lexicon.Word

/-!
# Exponents

An exponent is what marks a form: the kana that follow the stem. A form of a word is spelled by a
root, which is the stem or an irregular form written in full, and the exponents behind it.

* `GodanEnding.row`, `ichidanExponents`, `iExponents` and `naExponents` are the tables of the
  regular classes; `suruForms` and `kuruForms` list the irregular verbs. The form under which a
  word stands in a dictionary is kept out of the tables of verbs and of i-adjectives.
* `Verb.spelling?` and `Adjective.spelling?` spell a form of a word, if the tables have it.
-/

namespace JapaneseInflection

/-- How ichidan verbs form the causative: with the られ that they share with the passive, or with
a させ of its own. -/
inductive Causative where
  | collapsed
  | split
  deriving DecidableEq, Hashable

/-- How a form is spelled: the root that stands first, and the exponents behind it. -/
structure Spelling where
  root : String
  exponents : List String
  deriving DecidableEq

/-! ### Godan verbs

Each ending owns a row of kana, one for each vowel, and a euphonic pair for te and past. -/

/-- A row of the table of godan verbs: the kana of four columns, and the euphonic te and past. -/
structure KanaRow where
  a : String
  i : String
  e : String
  o : String
  te : String
  past : String

/-- The row of an ending. -/
def GodanEnding.row : GodanEnding → KanaRow
  | u => ⟨"わ", "い", "え", "お", "って", "った"⟩
  | ku => ⟨"か", "き", "け", "こ", "いて", "いた"⟩
  | gu => ⟨"が", "ぎ", "げ", "ご", "いで", "いだ"⟩
  | su => ⟨"さ", "し", "せ", "そ", "して", "した"⟩
  | tsu => ⟨"た", "ち", "て", "と", "って", "った"⟩
  | nu => ⟨"な", "に", "ね", "の", "んで", "んだ"⟩
  | bu => ⟨"ば", "び", "べ", "ぼ", "んで", "んだ"⟩
  | mu => ⟨"ま", "み", "め", "も", "んで", "んだ"⟩
  | ru => ⟨"ら", "り", "れ", "ろ", "って", "った"⟩

/-- The two exponents that a row gives to a form; the second is often empty. The dictionary form
is not taken from the row. -/
def KanaRow.exponents? (row : KanaRow) : VerbForm → Option (String × String)
  | .dictionary => none
  | .polite => some (row.i, "")
  | .te => some (row.te, "")
  | .past => some (row.past, "")
  | .negative => some (row.a, "")
  | .potential => some (row.e, "")
  | .passive => some (row.a, "れ")
  | .causative => some (row.a, "せ")
  | .volitional => some (row.o, "う")
  | .imperative => some (row.e, "")
  | .conditional => some (row.past, "ら")
  | .hypothetical => some (row.e, "ば")

/-! ### Ichidan verbs -/

/-- The exponents of ichidan verbs. Polite and negative are the bare stem; potential, passive,
causative, conditional and hypothetical share one exponent. -/
def ichidanExponents : List (VerbForm × String) :=
  [(.polite, ""), (.te, "て"), (.past, "た"), (.negative, ""), (.potential, "られ"),
    (.passive, "られ"), (.causative, "られ"), (.volitional, "よう"), (.imperative, "ろ"),
    (.conditional, "られ"), (.hypothetical, "られ")]

/-- The exponent of the causative of ichidan verbs where it is not shared. -/
def splitCausative : String := "させ"

/-- The exponent that follows the stem of an ichidan verb in a form. -/
def ichidanExponent? : Causative → VerbForm → Option String
  | _, .dictionary => some Verb.ichidanEnding
  | .split, .causative => some splitCausative
  | _, form => ichidanExponents.lookup form

/-! ### Irregular verbs -/

/-- The forms of する besides its dictionary form, in full. -/
def suruForms : List (VerbForm × String) :=
  [(.polite, "し"), (.te, "して"), (.past, "した"), (.negative, "し"), (.potential, "でき"),
    (.passive, "され"), (.causative, "させ"), (.volitional, "しよう"), (.imperative, "しろ"),
    (.conditional, "したら"), (.hypothetical, "すれば")]

/-- The forms of 来る besides its dictionary form, in full. -/
def kuruForms : List (VerbForm × String) :=
  [(.polite, "来"), (.te, "来て"), (.past, "来た"), (.negative, "来"), (.potential, "来られ"),
    (.passive, "来られ"), (.causative, "来させ"), (.volitional, "来よう"), (.imperative, "来い"),
    (.conditional, "来たら"), (.hypothetical, "来れば")]

/-- A form of an irregular verb with the given dictionary form and the given other forms. -/
def irregularForm? (dictionary : String) (forms : List (VerbForm × String)) :
    VerbForm → Option String
  | .dictionary => some dictionary
  | form => forms.lookup form

/-- The spelling of a form of a verb, if its tables have the form. -/
def Verb.spelling? (causative : Causative) : Verb → VerbForm → Option Spelling
  | godan stem ending, .dictionary => some ⟨stem.text, [ending.kana]⟩
  | godan stem ending, form => do
    let (first, second) ← ending.row.exponents? form
    return ⟨stem.text, [first, second]⟩
  | ichidan stem, form => do
    return ⟨stem.text, [← ichidanExponent? causative form]⟩
  | suru, form => do
    return ⟨← irregularForm? "する" suruForms form, []⟩
  | kuru, form => do
    return ⟨← irregularForm? "来る" kuruForms form, []⟩

/-! ### Adjectives -/

/-- The exponent of i-adjectives in the basic form. -/
def iBasicExponent : String := "い"

/-- The exponent of i-adjectives in the polite form. -/
def iPoliteExponent : String := "いです"

/-- The exponents of i-adjectives. There is none for te. -/
def iExponents : List (AdjectiveForm × String) :=
  [(.polite, iPoliteExponent), (.past, "かった"), (.negative, "くない")]

/-- The exponents of na-adjectives. -/
def naExponents : List (AdjectiveForm × String) :=
  [(.basic, "な"), (.polite, "です"), (.past, "でした"), (.negative, "ではない"), (.te, "で")]

/-- The root of the irregular adjective, except in its basic and polite forms. -/
def irregularRoot : String := "よ"

/-- The spelling of a form of an adjective, if it has the form. The irregular adjective keeps its
written stem in the basic and polite forms. -/
def Adjective.spelling? : Adjective → AdjectiveForm → Option Spelling
  | na stem, form => do
    return ⟨stem.text, [← naExponents.lookup form]⟩
  | i stem false _, .basic => some ⟨stem.text, [iBasicExponent]⟩
  | i stem false _, form => do
    return ⟨stem.text, [← iExponents.lookup form]⟩
  | i stem true _, .basic => some ⟨stem.text, [iBasicExponent]⟩
  | i stem true _, .polite => some ⟨stem.text, [iPoliteExponent]⟩
  | i _ true _, form => do
    return ⟨irregularRoot, [← iExponents.lookup form]⟩

end JapaneseInflection
