import JapaneseInflection.Lexicon.WordClass

/-!
# Forms

The forms into which verbs and adjectives are put. Verbs and adjectives have form systems of
their own, which share some keywords.

* `FormSystem` gathers what each system says about its forms, and `FormSystem.ofKeyword?` reads
  a keyword.
* `Form.ofKeyword?` reads a keyword for a word class: the class decides which system is meant.
-/

namespace JapaneseInflection

/-- The forms of verbs. -/
inductive VerbForm where
  | dictionary
  | polite
  | te
  | past
  | negative
  | potential
  | passive
  | causative
  | volitional
  | imperative
  | conditional
  | hypothetical
  deriving DecidableEq, Hashable, Ord

/-- The forms of adjectives. -/
inductive AdjectiveForm where
  | basic
  | polite
  | past
  | negative
  | te
  deriving DecidableEq, Hashable, Ord

/-- A finite system of forms: all forms in order of declaration, and for each form its keyword,
a short label and a longer title. -/
class FormSystem (F : Type) [DecidableEq F] where
  all : List F
  keyword : F → String
  label : F → String
  title : F → String

namespace FormSystem

variable {F : Type} [DecidableEq F] [FormSystem F]

/-- The form with the given keyword. -/
def ofKeyword? (text : String) : Option F :=
  all.find? fun form => keyword form == text

/-- The position of a form in the order of declaration. -/
def index (form : F) : Nat :=
  all.idxOf form

/-- The name of a form in a description: its keyword, capitalised. -/
def name (form : F) : String :=
  (keyword form).capitalize

end FormSystem

/-! ### The forms of verbs -/

namespace VerbForm

/-- All forms of verbs, in order of declaration. -/
def all : List VerbForm :=
  [dictionary, polite, te, past, negative, potential, passive, causative, volitional,
    imperative, conditional, hypothetical]

/-- The keyword of a form of verbs. -/
def keyword : VerbForm → String
  | dictionary => "dictionary"
  | polite => "polite"
  | te => "te"
  | past => "past"
  | negative => "negative"
  | potential => "potential"
  | passive => "passive"
  | causative => "causative"
  | volitional => "volitional"
  | imperative => "imperative"
  | conditional => "conditional"
  | hypothetical => "hypothetical"

/-- The label of a form of verbs. -/
def label : VerbForm → String
  | dictionary => "辞書形"
  | polite => "連用形"
  | te => "～て"
  | past => "過去形"
  | negative => "未然形"
  | potential => "可能形"
  | passive => "受身形"
  | causative => "使役形"
  | volitional => "意向形"
  | imperative => "命令形"
  | conditional => "～たら"
  | hypothetical => "仮定形"

/-- The title of a form of verbs. -/
def title : VerbForm → String
  | dictionary => "辞書形 (じしょけい) dictionary form"
  | polite => "連用形 (れんようけい) stem which ～ます attaches to"
  | te => "～te form, joins clauses and acts as a soft command"
  | past => "過去形 (かこけい) past tense"
  | negative => "未然形 (みぜんけい) stem which ～ない attaches to"
  | potential => "可能形 (かのうけい) potential, can do ~"
  | passive => "受身形 (うけみけい) passive, ~ was done to someone"
  | causative => "使役形 (しえきけい) causative, make or let ~ do"
  | volitional => "意向形 (いこうけい) volitional, let's do ~"
  | imperative => "命令形 (めいれいけい) command"
  | conditional => "～たら, conditional, if ~, when ~"
  | hypothetical => "仮定形 (かていけい) hypothetical, if ~"

instance : FormSystem VerbForm where
  all := all
  keyword := keyword
  label := label
  title := title

theorem mem_all (form : VerbForm) : form ∈ all := by
  cases form <;> decide

theorem keyword_injective {a b : VerbForm} (hsame : a.keyword = b.keyword) : a = b := by
  revert hsame
  cases a <;> cases b <;> decide

end VerbForm

/-! ### The forms of adjectives -/

namespace AdjectiveForm

/-- All forms of adjectives, in order of declaration. -/
def all : List AdjectiveForm :=
  [basic, polite, past, negative, te]

/-- The keyword of a form of adjectives. -/
def keyword : AdjectiveForm → String
  | basic => "basic"
  | polite => "polite"
  | past => "past"
  | negative => "negative"
  | te => "te"

/-- The label of a form of adjectives. -/
def label : AdjectiveForm → String
  | basic => "基本形"
  | polite => "～です"
  | past => "過去形"
  | negative => "否定形"
  | te => "～で"

/-- The title of a form of adjectives. -/
def title : AdjectiveForm → String
  | basic => "基本形 (きほんけい) attributive form"
  | polite => "～です, polite present"
  | past => "過去形 (かこけい) past tense"
  | negative => "否定形 (ひていけい) negative"
  | te => "～で, joins clauses (na-adjectives only)"

instance : FormSystem AdjectiveForm where
  all := all
  keyword := keyword
  label := label
  title := title

theorem mem_all (form : AdjectiveForm) : form ∈ all := by
  cases form <;> decide

theorem keyword_injective {a b : AdjectiveForm} (hsame : a.keyword = b.keyword) : a = b := by
  revert hsame
  cases a <;> cases b <;> decide

end AdjectiveForm

/-! ### Forms of either kind -/

/-- A form of verbs or of adjectives. -/
inductive Form where
  | verb (form : VerbForm)
  | adjective (form : AdjectiveForm)
  deriving DecidableEq, Hashable

namespace Form

/-- The keyword of a form of either kind. -/
def keyword : Form → String
  | verb form => form.keyword
  | adjective form => form.keyword

/-- Test if a form belongs to verbs. -/
def isVerbal : Form → Bool
  | verb _ => true
  | adjective _ => false

/-- The form that a keyword names for words of the given class. -/
def ofKeyword? (wordClass : WordClass) (text : String) : Option Form :=
  if wordClass.isVerb then (FormSystem.ofKeyword? text).map verb
  else (FormSystem.ofKeyword? text).map adjective

end Form

end JapaneseInflection
