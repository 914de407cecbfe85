/-!
# Word classes

The class of a word decides how the word is conjugated.

* `WordClass.ofKeyword?` reads the keyword of a class; `WordClass.ofKeyword?_keyword` says that
  it finds every class by its own keyword.
* `WordClass.isVerb` splits the classes into those of verbs and those of adjectives.
-/

namespace JapaneseInflection

/-- The classes of words that can be conjugated. -/
inductive WordClass where
  | godan
  | ichidan
  | suru
  | kuru
  | iAdjective
  | naAdjective
  deriving DecidableEq, Hashable, Ord

namespace WordClass

/-- All classes, in order of declaration. -/
def all : List WordClass :=
  [godan, ichidan, suru, kuru, iAdjective, naAdjective]

/-- The keyword of a class. -/
def keyword : WordClass → String
  | godan => "godan"
  | ichidan => "ichidan"
  | suru => "suru"
  | kuru => "kuru"
  | iAdjective => "i-adjective"
  | naAdjective => "na-adjective"

/-- A line of help on a class. -/
def help : WordClass → String
  | godan => "godan verb, 五段動詞"
  | ichidan => "ichidan verb, 一段動詞"
  | suru => "irregular verb する"
  | kuru => "irregular verb 来る"
  | iAdjective => "i-adjective, 形容詞"
  | naAdjective => "na-adjective, 形容動詞"

/-- The name under which a class stands in stored data. -/
def dataName : WordClass → String
  | suru => "irregular-suru"
  | kuru => "irregular-kuru"
  | other => other.keyword

/-- Test if words of the class are verbs; the others are adjectives. -/
def isVerb : WordClass → Bool
  | godan | ichidan | suru | kuru => true
  | iAdjective | naAdjective => false

/-- The class with the given keyword. -/
def ofKeyword? (keyword : String) : Option WordClass :=
  all.find? (·.keyword == keyword)

/-- The class stored under the given name. -/
def ofDataName? (name : String) : Option WordClass :=
  all.find? (·.dataName == name)

/-- The position of a class in the order of declaration. -/
def index (wordClass : WordClass) : Nat :=
  all.idxOf wordClass

theorem keyword_injective {a b : WordClass} (hsame : a.keyword = b.keyword) : a = b := by
  revert hsame
  cases a <;> cases b <;> decide

/-- A class is found by its keyword. -/
theorem ofKeyword?_keyword (wordClass : WordClass) :
    ofKeyword? wordClass.keyword = some wordClass := by
  cases wordClass <;> decide

end WordClass

end JapaneseInflection
