import JapaneseInflection.Text.Field
import JapaneseInflection.Text.Quoted

/-!
# Bounded sequences of fragments

A `Fragments n` spells a text in at most `n` non-empty pieces. Empty pieces are never stored, so
the text is split only where a piece begins.

* `Fragments.push` puts a piece behind the others, or fails when all slots are taken.
* `Fragments.toList` is the list of the stored pieces, the view all else is read off.
* `Fragments.sameText` compares two sequences, of any capacities, by the text they spell.
-/

namespace JapaneseInflection

/-- The ways in which storing a fragment fails: all slots are taken, or a slot is addressed that
a store of the given length does not have. -/
inductive StorageFault where
  | full
  | outOfBounds (length index : Nat)
  deriving DecidableEq

/-- The text of a storage fault. -/
def StorageFault.message : StorageFault → String
  | .full => "Capacity overflow"
  | .outOfBounds length index =>
    s!"index out of bounds: the len is {length} but the index is {index}"

/-- At most `capacity` fragments of a text: the first `size` slots are in use. -/
structure Fragments (capacity : Nat) where
  slots : Vector String capacity
  size : Nat

namespace Fragments

variable {capacity : Nat}

/-! ### Construction -/

/-- No fragments. -/
def empty : Fragments capacity where
  slots := Vector.replicate capacity ""
  size := 0

/-- One fragment, in the first slot; none when the text is empty. -/
def single (text : String) : Except StorageFault (Fragments capacity) :=
  if text = "" then .ok empty
  else if hroom : 0 < capacity then
    .ok { slots := (Vector.replicate capacity "").set 0 text hroom, size := 1 }
  else .error (.outOfBounds capacity 0)

/-- The fragments with one more behind them. The empty text needs no slot. -/
def push (fragments : Fragments capacity) (text : String) :
    Except StorageFault (Fragments capacity) :=
  if text = "" then .ok fragments
  else if hroom : fragments.size < capacity then
    .ok { slots := fragments.slots.set fragments.size text hroom, size := fragments.size + 1 }
  else .error .full

/-- The fragments with all the given texts pushed behind them, in order. -/
def pushAll (fragments : Fragments capacity) : List String →
    Except StorageFault (Fragments capacity)
  | [] => .ok fragments
  | text :: texts =>
    match fragments.push text with
    | .ok longer => longer.pushAll texts
    | .error fault => .error fault

/-- The fragments made of the given texts, in order. -/
def ofList (texts : List String) : Except StorageFault (Fragments capacity) :=
  empty.pushAll texts

/-! ### Views -/

/-- The stored fragments, in order. -/
def toList (fragments : Fragments capacity) : List String :=
  fragments.slots.toList.take fragments.size

/-- The text that the fragments spell. -/
def text (fragments : Fragments capacity) : String :=
  String.join fragments.toList

/-- The characters of the fragments, one fragment after the other. -/
def chars (fragments : Fragments capacity) : List Char :=
  fragments.toList.flatMap String.toList

/-- Test if no fragment is stored. -/
def isEmpty (fragments : Fragments capacity) : Bool :=
  fragments.size == 0

/-- The fragments printed through a field, each on its own. -/
def render (field : Field) (fragments : Fragments capacity) : String :=
  String.join (fragments.toList.map field.render)

/-- The spelled text in quotes. -/
def describe (fragments : Fragments capacity) : String :=
  quoted fragments.text

@[simp] theorem toList_empty : (empty : Fragments capacity).toList = [] := by
  simp [toList, empty]

/-- The characters are those of the text. -/
theorem toList_text (fragments : Fragments capacity) :
    fragments.text.toList = fragments.chars := by
  simp [text, chars, String.toList_join]

theorem render_plain (fragments : Fragments capacity) :
    fragments.render .plain = fragments.text := by
  have hplain : Field.plain.render = id := funext Field.render_plain
  simp [render, text, hplain]

/-! ### Comparison

Fragments are compared and hashed by their characters, so neither the split nor the capacity
matters. -/

/-- Test if two sequences of fragments spell the same text. -/
def sameText {other : Nat} (a : Fragments capacity) (b : Fragments other) : Bool :=
  a.chars == b.chars

/-- Test if the fragments spell the given text. -/
def spells (fragments : Fragments capacity) (text : String) : Bool :=
  fragments.chars == text.toList

instance : BEq (Fragments capacity) := ⟨sameText⟩

/-- The sequence of values that a hash of the fragments is computed from. -/
def hashInput (fragments : Fragments capacity) : List Char :=
  fragments.chars

instance : Hashable (Fragments capacity) where
  hash fragments := hash (String.ofList fragments.hashInput)

end Fragments

end JapaneseInflection
