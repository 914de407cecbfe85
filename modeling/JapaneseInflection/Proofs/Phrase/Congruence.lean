import JapaneseInflection.Phrase.Template

/-!
# Equality of phrases is a congruence

Phrases are compared and hashed by what they spell, and what a phrase spells is the concatenation of
its leaves. So equality does not see kinds, nesting or empty leaves, and a part may be replaced by
another with the same text wherever it stands.

* `Phrase.Frame` is what surrounds a part of a phrase, or an argument of a template; frames inside
  each other make a `Phrase.Context`, a phrase with a hole at any depth.
* `Phrase.Context.exists_text_fill`: a context adds a text before and a text behind what stands in
  its hole, and these do not depend on it.
* `Phrase.Contains.exists_context`: every part at any depth of a phrase stands in such a hole.
* `Phrase.beq_congruence` is the whole account of equality.
-/

namespace JapaneseInflection

namespace Phrase

/-! ### Comparison -/

theorem beq_iff_text_eq {a b : Phrase} : (a == b) = true ↔ a.text = b.text := by
  show (a.text == b.text) = true ↔ a.text = b.text
  exact beq_iff_eq

theorem spells_iff {phrase : Phrase} {text : String} :
    phrase.spells text = true ↔ phrase.text = text :=
  beq_iff_eq

theorem text_eq_iff_join_leaves_eq {a b : Phrase} :
    a.text = b.text ↔ String.join a.leaves = String.join b.leaves := by
  rw [text_eq_join_leaves, text_eq_join_leaves]

/-- A phrase printed through the plain field is what it spells. -/
theorem render_plain (phrase : Phrase) : phrase.render .plain = phrase.text := by
  have hplain : Field.plain.render = id := funext Field.render_plain
  rw [render_eq_join_leaves, text_eq_join_leaves, hplain, List.map_id]

/-! ### Frames

A frame leads from a part to the phrase around it. Every part of a phrase has one, and so has every
argument of a template that is a part. -/

/-- What surrounds a part: the other parts of the phrase in which it stands, or the other arguments
of the template to which it is given. -/
inductive Frame where
  | among (before after : List Part)
  | attach (particle : Particle)
  | connectFirst (second : Part)
  | connectSecond (first : Part)
  | conditionalSubject (particle : ConditionalParticle) (result : Part)
  | conditionalResult (subject : Part) (particle : ConditionalParticle)
  | demonstrative (adverb : String)
  | questionSubject (adverb : String) (verb : Part) (particle : Particle)
  | questionVerb (adverb : String) (subject : Part) (particle : Particle)

namespace Frame

/-- The phrase that a frame makes around a part. -/
def fill : Frame → Part → Phrase
  | among before after, part => ⟨before ++ part :: after⟩
  | attach particle, part => Phrase.attach part particle
  | connectFirst second, part => Phrase.connect part second
  | connectSecond first, part => Phrase.connect first part
  | conditionalSubject particle result, part => Phrase.conditional part particle result
  | conditionalResult subject particle, part => Phrase.conditional subject particle part
  | demonstrative adverb, part => Phrase.demonstrative adverb part
  | questionSubject adverb verb particle, part =>
    Question.phrase { adverb, subject := part, verb, particle }
  | questionVerb adverb subject particle, part =>
    Question.phrase { adverb, subject, verb := part, particle }

/-- What stands before the part in a frame. -/
def textBefore : Frame → String
  | among before _ => Part.textOfList before
  | attach _ => ""
  | connectFirst _ => ""
  | connectSecond first => first.text ++ comma
  | conditionalSubject _ _ => ""
  | conditionalResult subject particle => subject.text ++ particle.kana
  | demonstrative adverb => adverb
  | questionSubject adverb _ _ => adverb
  | questionVerb adverb subject _ => adverb ++ subject.text

/-- What stands behind the part in a frame. -/
def textAfter : Frame → String
  | among _ after => Part.textOfList after
  | attach particle => particle.text
  | connectFirst second => comma ++ second.text
  | connectSecond _ => ""
  | conditionalSubject particle result => particle.kana ++ result.text
  | conditionalResult _ _ => ""
  | demonstrative _ => ""
  | questionSubject _ verb particle => verb.text ++ particle.text
  | questionVerb _ _ particle => particle.text

/-- A filled frame spells the part between its own two texts. -/
theorem text_fill (frame : Frame) (part : Part) :
    (frame.fill part).text = frame.textBefore ++ part.text ++ frame.textAfter := by
  cases frame with
  | among before after =>
    show Part.textOfList (before ++ part :: after) = _
    rw [Part.textOfList_append, Part.textOfList, ← String.append_assoc]
    rfl
  | attach particle => simp [fill, textBefore, textAfter]
  | connectFirst second => simp [fill, textBefore, textAfter, String.append_assoc]
  | connectSecond first => simp [fill, textBefore, textAfter]
  | conditionalSubject particle result => simp [fill, textBefore, textAfter, String.append_assoc]
  | conditionalResult subject particle => simp [fill, textBefore, textAfter]
  | demonstrative adverb => simp [fill, textBefore, textAfter]
  | questionSubject adverb verb particle => simp [fill, textBefore, textAfter, String.append_assoc]
  | questionVerb adverb subject particle => simp [fill, textBefore, textAfter]

end Frame

/-! ### Contexts -/

/-- A phrase with a hole at any depth: the frame around the hole, and the frames around the phrase
that it makes, innermost first. -/
structure Context where
  inner : Frame
  outer : List Frame

/-- A phrase put into frames, the first of which is the innermost. -/
def within (phrase : Phrase) : List Frame → Phrase
  | [] => phrase
  | frame :: frames => (frame.fill phrase.toPart).within frames

/-- The phrase that a context makes of the part in its hole. -/
def Context.fill (context : Context) (part : Part) : Phrase :=
  (context.inner.fill part).within context.outer

/-- Frames add texts before and behind a phrase that do not depend on the phrase. -/
theorem exists_text_within (frames : List Frame) :
    ∃ before after, ∀ phrase : Phrase,
      (phrase.within frames).text = before ++ phrase.text ++ after := by
  induction frames with
  | nil => exact ⟨"", "", fun phrase => by simp [within]⟩
  | cons frame frames ih =>
    obtain ⟨before, after, hframes⟩ := ih
    refine ⟨before ++ frame.textBefore, frame.textAfter ++ after, fun phrase => ?_⟩
    rw [within, hframes, frame.text_fill, text_toPart]
    simp only [String.append_assoc]

/-- A context adds texts before and behind its hole that do not depend on what stands there. -/
theorem Context.exists_text_fill (context : Context) :
    ∃ before after, ∀ part, (context.fill part).text = before ++ part.text ++ after := by
  obtain ⟨before, after, hframes⟩ := exists_text_within context.outer
  refine ⟨before ++ context.inner.textBefore, context.inner.textAfter ++ after, fun part => ?_⟩
  rw [fill, hframes, context.inner.text_fill]
  simp only [String.append_assoc]

/-- Two parts make phrases of equal text in a context exactly when they have equal texts. -/
theorem Context.text_fill_eq_iff (context : Context) {first second : Part} :
    (context.fill first).text = (context.fill second).text ↔ first.text = second.text := by
  obtain ⟨before, after, hfill⟩ := context.exists_text_fill
  rw [hfill, hfill, String.append_left_inj, String.append_right_inj]

/-! ### Contexts reach all parts -/

/-- A part stands somewhere in a phrase, as a part of its own or inside a nested phrase. -/
inductive Contains (part : Part) : Phrase → Prop
  | here {parts : List Part} (mem : part ∈ parts) : Contains part ⟨parts⟩
  | deeper {parts inside : List Part} (mem : Part.nested inside ∈ parts)
      (contains : Contains part ⟨inside⟩) : Contains part ⟨parts⟩

theorem within_append_singleton (phrase : Phrase) (frames : List Frame) (frame : Frame) :
    phrase.within (frames ++ [frame]) = frame.fill (phrase.within frames).toPart := by
  induction frames generalizing phrase with
  | nil => rfl
  | cons first frames ih => exact ih (first.fill phrase.toPart)

/-- Every part that stands in a phrase stands in the hole of a context. -/
theorem Contains.exists_context {part : Part} {phrase : Phrase} (hc : phrase.Contains part) :
    ∃ context : Context, context.fill part = phrase := by
  induction hc with
  | here hmem =>
    obtain ⟨before, after, rfl⟩ := List.append_of_mem hmem
    exact ⟨⟨.among before after, []⟩, rfl⟩
  | deeper hmem _ ih =>
    obtain ⟨before, after, rfl⟩ := List.append_of_mem hmem
    obtain ⟨context, hinside⟩ := ih
    refine ⟨⟨context.inner, context.outer ++ [.among before after]⟩, ?_⟩
    rw [Context.fill, within_append_singleton]
    show Frame.fill _ (context.fill part).toPart = _
    rw [hinside]
    rfl

/-- **Equality of phrases is a congruence, told by the leaves alone.** A phrase spells its leaves
one after the other. Phrases are equal, and hashed from equal data, exactly when these
concatenations are equal, and a phrase equals the text that it spells and no other. Every part at
any depth of a phrase stands in the hole of a context, as do the arguments of templates at any
depth; and another part in its place gives an equal phrase exactly when it has the same text. -/
theorem beq_congruence :
    (∀ phrase : Phrase, phrase.text = String.join phrase.leaves ∧
      phrase.render .plain = String.join phrase.leaves) ∧
    (∀ a b : Phrase,
      ((a == b) = true ↔ String.join a.leaves = String.join b.leaves) ∧
      (a.hashInput = b.hashInput ↔ String.join a.leaves = String.join b.leaves)) ∧
    (∀ (phrase : Phrase) (text : String), phrase.spells text = true ↔ phrase.text = text) ∧
    (∀ (phrase : Phrase) (part : Part), phrase.Contains part →
      ∃ context : Context, context.fill part = phrase) ∧
    (∀ (context : Context) (old new : Part),
      ((context.fill new == context.fill old) = true ↔ new.text = old.text) ∧
      ((context.fill new).hashInput = (context.fill old).hashInput ↔ new.text = old.text)) := by
  refine ⟨fun phrase => ⟨phrase.text_eq_join_leaves, ?_⟩, fun a b => ⟨?_, ?_⟩,
    fun phrase text => spells_iff, fun phrase part => Contains.exists_context,
    fun context old new => ⟨?_, context.text_fill_eq_iff⟩⟩
  · rw [render_plain, text_eq_join_leaves]
  · rw [beq_iff_text_eq, text_eq_iff_join_leaves_eq]
  · exact text_eq_iff_join_leaves_eq
  · rw [beq_iff_text_eq, context.text_fill_eq_iff]

end Phrase

end JapaneseInflection
