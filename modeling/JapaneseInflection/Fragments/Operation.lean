import JapaneseInflection.Fragments

/-!
# Operations on fragments that are held

Fragments that are held somewhere change in two ways: a text is pushed behind them where they are,
or fragments made on their own take their place. An operation that fails ends at that point, and
what it has written until then stays written.

* `InPlace` is a program on the fragments that are held, and `pushInPlace` pushes a text step by
  step.
* `Operation.perform` is the program of an operation.
-/

namespace JapaneseInflection.Fragments

variable {capacity : Nat}

/-- A program that works on the fragments that are held. It may fail on the way. -/
abbrev InPlace (capacity : Nat) := ExceptT StorageFault (StateM (Fragments capacity))

/-- How a program ends on the given fragments, and the fragments that are held then. -/
def InPlace.outcome (program : InPlace capacity Unit) (held : Fragments capacity) :
    Except StorageFault Unit × Fragments capacity :=
  program.run.run held

/-- Write a text into the slot at the given index. -/
def writeSlot (index : Nat) (text : String) : InPlace capacity Unit := do
  if hrange : index < capacity then
    modify fun held => { held with slots := held.slots.set index text hrange }
  else throw (.outOfBounds capacity index)

/-- Push a text behind the fragments that are held: look for a slot, write it, count it. The empty
text needs no slot. -/
def pushInPlace (text : String) : InPlace capacity Unit := do
  if text ≠ "" then
    let size := (← get).size
    if ¬ size < capacity then throw .full
    writeSlot size text
    modify fun held => { held with size := held.size + 1 }

/-- Hold other fragments, if they could be made. -/
def replaceBy (made : Except StorageFault (Fragments capacity)) : InPlace capacity Unit := do
  set (← MonadExcept.ofExcept made)

/-- What can be done to the fragments that are held. -/
inductive Operation where
  /-- Hold a single text. -/
  | single (text : String)
  /-- Hold nothing. -/
  | clear
  /-- Push a text in place. -/
  | push (text : String)
  /-- Hold a copy with a text pushed behind it. -/
  | extend (text : String)
  /-- Hold the given texts. -/
  | collect (texts : List String)

/-- The program of an operation. -/
def Operation.perform : Operation → InPlace capacity Unit
  | single text => replaceBy (Fragments.single text)
  | clear => replaceBy (.ok empty)
  | push text => pushInPlace text
  | extend text => do replaceBy ((← get).push text)
  | collect texts => replaceBy (ofList texts)

end JapaneseInflection.Fragments
