import JapaneseInflection.Error

/-!
# Stems

A stem is the part of a word that stays when the ending changes. It is never empty.

* `Stem.ofText?` accepts every text but the empty one.
* `splitFinal` takes a dictionary form apart into what stands before its last character and that
  character; `splitFinal_append` says that nothing is lost.
* `dropFinal` takes away one given character at the end, if it stands there.
-/

namespace JapaneseInflection

/-- A text that is not empty, to which endings attach. -/
structure Stem where
  text : String
  text_ne : text ≠ ""

namespace Stem

@[ext] theorem ext {a b : Stem} (hsame : a.text = b.text) : a = b := by
  cases a; cases b; simpa using hsame

instance : DecidableEq Stem := fun a b =>
  if hsame : a.text = b.text then isTrue (ext hsame)
  else isFalse fun h => hsame (congrArg text h)

instance : Hashable Stem := ⟨fun stem => hash stem.text⟩

/-- The stem of a word of the given class, written with the given text. -/
def ofText? (wordClass : WordClass) (text : String) : Except Error Stem :=
  if hne : text ≠ "" then .ok ⟨text, hne⟩
  else .error (.invalidLexeme (.word wordClass) text .emptyStem)

theorem ofText?_text (wordClass : WordClass) (stem : Stem) :
    ofText? wordClass stem.text = .ok stem := by
  simp [ofText?, stem.text_ne]

end Stem

/-! ### Taking dictionary forms apart -/

/-- What stands before the last character of a text, and the last character. -/
def splitFinal (text : String) : String × String :=
  (String.ofList text.toList.dropLast, String.ofList text.toList.getLast?.toList)

theorem dropLast_append_getLast? {α : Type} (xs : List α) :
    xs.dropLast ++ xs.getLast?.toList = xs := by
  cases xs with
  | nil => rfl
  | cons x rest =>
    rw [List.getLast?_eq_some_getLast (List.cons_ne_nil x rest)]
    exact List.dropLast_concat_getLast (List.cons_ne_nil x rest)

/-- The two parts of a split text make up the text. -/
theorem splitFinal_append (text : String) : (splitFinal text).1 ++ (splitFinal text).2 = text := by
  rw [splitFinal, ← String.ofList_append, dropLast_append_getLast?, String.ofList_toList]

/-- A text that ends in the given character splits before it. -/
theorem splitFinal_append_singleton (text : String) (c : Char) :
    splitFinal (text ++ String.ofList [c]) = (text, String.ofList [c]) := by
  simp [splitFinal]

/-- A text without its last character if that is the given one, else the text itself. -/
def dropFinal (c : Char) (text : String) : String :=
  if text.toList.getLast? = some c then String.ofList text.toList.dropLast else text

theorem dropFinal_append_singleton (c : Char) (text : String) :
    dropFinal c (text ++ String.ofList [c]) = text := by
  simp [dropFinal]

end JapaneseInflection
