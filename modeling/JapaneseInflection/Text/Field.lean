/-!
# Fields

A field says how a text is laid out in print: it is cut to a greatest number of characters and
then filled up to a least number of characters.

* `Field.render` lays out one text.
* `Field.render_plain`: the plain field prints a text as it is.
* `Field.length_render`: a printed text is as long as the wider of the field and the cut text.
-/

namespace JapaneseInflection

/-- The side of a field on which its text stands. -/
inductive Alignment where
  | left
  | center
  | right
  deriving DecidableEq

/-- The layout of a text: the filling character, the side on which the text stands, the least
number of characters printed, and the greatest number of characters taken from the text. -/
structure Field where
  fill : Char := ' '
  alignment : Alignment := .left
  width : Nat := 0
  precision : Option Nat := none
  deriving DecidableEq

namespace Field

/-- The field that neither cuts nor fills. -/
def plain : Field := {}

/-- The characters of a text that a field lets through. -/
def cut (field : Field) (text : List Char) : List Char :=
  match field.precision with
  | none => text
  | some most => text.take most

/-- The number of filling characters before and after a text of the given length. A centered
text has the smaller half before it. -/
def padding (field : Field) (length : Nat) : Nat × Nat :=
  let missing := field.width - length
  match field.alignment with
  | .left => (0, missing)
  | .center => (missing / 2, missing - missing / 2)
  | .right => (missing, 0)

/-- A list of characters cut to the field's precision and filled to its width. -/
def layout (field : Field) (text : List Char) : List Char :=
  let shown := field.cut text
  let around := field.padding shown.length
  List.replicate around.1 field.fill ++ shown ++ List.replicate around.2 field.fill

/-- A text cut to the field's precision and filled to its width. -/
def render (field : Field) (text : String) : String :=
  String.ofList (field.layout text.toList)

@[simp] theorem toList_render (field : Field) (text : String) :
    (field.render text).toList = field.layout text.toList :=
  String.toList_ofList

theorem layout_plain (text : List Char) : plain.layout text = text := by
  simp [layout, plain, cut, padding]

@[simp] theorem render_plain (text : String) : plain.render text = text := by
  simp [render, layout_plain]

theorem length_cut (field : Field) (text : List Char) :
    (field.cut text).length = (field.precision.elim text.length (min · text.length)) := by
  unfold cut
  cases field.precision <;> simp

theorem padding_add (field : Field) (length : Nat) :
    (field.padding length).1 + (field.padding length).2 = field.width - length := by
  unfold padding
  cases field.alignment <;> simp only <;> omega

/-- A printed text is as long as the wider of the field and the cut text. -/
theorem length_render (field : Field) (text : String) :
    (field.render text).toList.length =
      max field.width (field.precision.elim text.toList.length (min · text.toList.length)) := by
  have hsum := padding_add field (field.cut text.toList).length
  have hshown := length_cut field text.toList
  simp only [toList_render, layout, List.length_append, List.length_replicate]
  omega

end Field

end JapaneseInflection
