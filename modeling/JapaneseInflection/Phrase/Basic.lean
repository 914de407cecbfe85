import JapaneseInflection.Text.Field
import JapaneseInflection.Text.Quoted
import JapaneseInflection.Lexicon.Particle

/-!
# Phrases

A phrase is a sequence of parts, and a part is a text of some kind or a phrase of its own.

* `Phrase.text` is what a phrase spells, and `Phrase.render` prints it through a field; both walk
  the tree of parts.
* `Phrase.leaves` is the flattened list of the texts in a phrase.
  `Phrase.render_eq_join_leaves` and `Phrase.text_eq_join_leaves` say that a phrase is printed
  and spelled leaf by leaf.
* Phrases are compared and hashed by what they spell.
-/

namespace JapaneseInflection

/-- The kinds of texts in a phrase. Adverbs include demonstratives like そう and interrogatives
like どう; a contraction is a form like じゃ. -/
inductive PartKind where
  | verb
  | adjective
  | noun
  | particle
  | adverb
  | intensifier
  | contracted
  | punctuation
  deriving DecidableEq

/-- The name of a kind of text. -/
def PartKind.name : PartKind → String
  | verb => "verb"
  | adjective => "adjective"
  | noun => "noun"
  | particle => "particle"
  | adverb => "adverb"
  | intensifier => "intensifier"
  | contracted => "contracted"
  | punctuation => "punctuation"

/-- A part of a phrase: a text of some kind, or the parts of a nested phrase. -/
inductive Part where
  | leaf (kind : PartKind) (text : String)
  | nested (parts : List Part)

/-- A sequence of parts. -/
structure Phrase where
  parts : List Part

/-! ### Walking the tree of parts -/

mutual

/-- What a part spells. -/
def Part.text : Part → String
  | .leaf _ text => text
  | .nested parts => Part.textOfList parts

/-- What a list of parts spells. -/
def Part.textOfList : List Part → String
  | [] => ""
  | part :: parts => part.text ++ Part.textOfList parts

end

mutual

/-- A part printed through a field, which every leaf passes on its own. -/
def Part.render (field : Field) : Part → String
  | .leaf _ text => field.render text
  | .nested parts => Part.renderList field parts

/-- A list of parts printed through a field. -/
def Part.renderList (field : Field) : List Part → String
  | [] => ""
  | part :: parts => part.render field ++ Part.renderList field parts

end

mutual

/-- The texts in a part, from left to right. -/
def Part.leaves : Part → List String
  | .leaf _ text => [text]
  | .nested parts => Part.leavesOfList parts

/-- The texts in a list of parts, from left to right. -/
def Part.leavesOfList : List Part → List String
  | [] => []
  | part :: parts => part.leaves ++ Part.leavesOfList parts

end

mutual

/-- A description of a part. -/
def Part.describe : Part → String
  | .leaf kind text => kind.name.capitalize ++ "(" ++ quoted text ++ ")"
  | .nested parts =>
    "Nested(Phrase \x7b parts: [" ++ String.intercalate ", " (Part.describeList parts) ++
      "] \x7d)"

/-- Descriptions of the parts in a list. -/
def Part.describeList : List Part → List String
  | [] => []
  | part :: parts => part.describe :: Part.describeList parts

end

mutual

theorem Part.render_eq_join_leaves (field : Field) :
    ∀ part : Part, part.render field = String.join (part.leaves.map field.render)
  | .leaf kind text => by simp [Part.render, Part.leaves]
  | .nested parts => by simpa [Part.render, Part.leaves] using renderList_eq_join_leaves field parts

theorem Part.renderList_eq_join_leaves (field : Field) :
    ∀ parts : List Part,
      Part.renderList field parts = String.join ((Part.leavesOfList parts).map field.render)
  | [] => by simp [Part.renderList, Part.leavesOfList]
  | part :: parts => by
    simp [Part.renderList, Part.leavesOfList, Part.render_eq_join_leaves field part,
      Part.renderList_eq_join_leaves field parts]

end

mutual

theorem Part.text_eq_join_leaves : ∀ part : Part, part.text = String.join part.leaves
  | .leaf kind text => by simp [Part.text, Part.leaves]
  | .nested parts => by simpa [Part.text, Part.leaves] using textOfList_eq_join_leaves parts

theorem Part.textOfList_eq_join_leaves :
    ∀ parts : List Part, Part.textOfList parts = String.join (Part.leavesOfList parts)
  | [] => by simp [Part.textOfList, Part.leavesOfList]
  | part :: parts => by
    simp [Part.textOfList, Part.leavesOfList, Part.text_eq_join_leaves part,
      Part.textOfList_eq_join_leaves parts]

end

/-! Each walk over a list of parts goes through a concatenation piece by piece. -/

theorem Part.textOfList_append (parts others : List Part) :
    Part.textOfList (parts ++ others) = Part.textOfList parts ++ Part.textOfList others := by
  induction parts with
  | nil => simp [Part.textOfList]
  | cons part parts ih => simp only [List.cons_append, Part.textOfList, ih, String.append_assoc]

theorem Part.leavesOfList_append (parts others : List Part) :
    Part.leavesOfList (parts ++ others) = Part.leavesOfList parts ++ Part.leavesOfList others := by
  induction parts with
  | nil => rfl
  | cons part parts ih => simp only [List.cons_append, Part.leavesOfList, ih, List.append_assoc]

namespace Part

/-- A verb, already conjugated. -/
def verb (text : String) : Part := leaf .verb text

/-- An adjective, already conjugated. -/
def adjective (text : String) : Part := leaf .adjective text

/-- An adverb. -/
def adverb (text : String) : Part := leaf .adverb text

/-- A punctuation mark. -/
def punctuation (text : String) : Part := leaf .punctuation text

/-- The part that a noun makes. -/
def ofNoun (noun : Noun) : Part := leaf .noun noun.text

/-- The part that a particle makes. -/
def ofParticle (particle : Particle) : Part := leaf .particle particle.text

/-- The part that a conditional particle makes. -/
def ofConditional (particle : ConditionalParticle) : Part := leaf .particle particle.kana

end Part

/-! ### Phrases -/

namespace Phrase

/-- The phrase without parts. -/
def empty : Phrase := ⟨[]⟩

/-- The phrase with one more part at its end. -/
def push (phrase : Phrase) (part : Part) : Phrase := ⟨phrase.parts ++ [part]⟩

/-- Test if a phrase has no parts. A phrase whose parts spell nothing is not empty. -/
def isEmpty (phrase : Phrase) : Bool := phrase.parts.isEmpty

/-- A phrase as a part of another. -/
def toPart (phrase : Phrase) : Part := .nested phrase.parts

/-- What a phrase spells. -/
def text (phrase : Phrase) : String := Part.textOfList phrase.parts

/-- A phrase printed through a field. -/
def render (field : Field) (phrase : Phrase) : String := Part.renderList field phrase.parts

/-- The texts in a phrase, from left to right. -/
def leaves (phrase : Phrase) : List String := Part.leavesOfList phrase.parts

/-- A description of a phrase. -/
def describe (phrase : Phrase) : String :=
  "Phrase \x7b parts: [" ++ String.intercalate ", " (Part.describeList phrase.parts) ++ "] \x7d"

/-- A phrase is printed leaf by leaf. -/
theorem render_eq_join_leaves (field : Field) (phrase : Phrase) :
    phrase.render field = String.join (phrase.leaves.map field.render) :=
  Part.renderList_eq_join_leaves field phrase.parts

/-- A phrase spells its leaves one after the other. -/
theorem text_eq_join_leaves (phrase : Phrase) : phrase.text = String.join phrase.leaves :=
  Part.textOfList_eq_join_leaves phrase.parts

@[simp] theorem leaves_empty : empty.leaves = [] := rfl

@[simp] theorem leaves_push (phrase : Phrase) (part : Part) :
    (phrase.push part).leaves = phrase.leaves ++ part.leaves := by
  simp [leaves, push, Part.leavesOfList_append, Part.leavesOfList]

@[simp] theorem text_empty : empty.text = "" := rfl

@[simp] theorem text_push (phrase : Phrase) (part : Part) :
    (phrase.push part).text = phrase.text ++ part.text := by
  simp [text, push, Part.textOfList_append, Part.textOfList]

@[simp] theorem leaves_toPart (phrase : Phrase) : phrase.toPart.leaves = phrase.leaves := by
  simp [toPart, leaves, Part.leaves]

@[simp] theorem text_toPart (phrase : Phrase) : phrase.toPart.text = phrase.text := by
  simp [toPart, text, Part.text]

instance : BEq Phrase := ⟨fun a b => a.text == b.text⟩

/-- Test if a phrase spells the given text. -/
def spells (phrase : Phrase) (text : String) : Bool := phrase.text == text

/-- What a hash of a phrase is computed from. -/
def hashInput (phrase : Phrase) : String := phrase.text

instance : Hashable Phrase := ⟨fun phrase => hash phrase.hashInput⟩

end Phrase

end JapaneseInflection
