import JapaneseInflection.Phrase.Basic

/-!
# Phrase templates

Fixed arrangements of parts: a particle behind a phrase, two phrases joined by a comma, a condition
and its result, an adverb before a verb, and a question. Beside each stands a lemma that says what
its leaves are, and one that says what it spells.
-/

namespace JapaneseInflection

namespace Phrase

/-- The mark between two connected phrases. -/
def comma : String := "、"

/-- A phrase with a particle behind it, like いい and よ. -/
def attach (head : Part) (particle : Particle) : Phrase :=
  (empty.push head).push (.ofParticle particle)

/-- Two phrases with a comma between them, like いいよ、来いよ. -/
def connect (first second : Part) : Phrase :=
  ((empty.push first).push (.punctuation comma)).push second

/-- A subject, the particle that makes it a condition, and the result, like 雨 なら 行かない. -/
def conditional (subject : Part) (particle : ConditionalParticle) (result : Part) : Phrase :=
  ((empty.push subject).push (.ofConditional particle)).push result

/-- A demonstrative adverb before a verb, like そう した. -/
def demonstrative (adverb : String) (verb : Part) : Phrase :=
  (empty.push (.adverb adverb)).push verb

@[simp] theorem leaves_attach (head : Part) (particle : Particle) :
    (attach head particle).leaves = head.leaves ++ [particle.text] := by
  simp [attach, Part.ofParticle, Part.leaves]

@[simp] theorem leaves_connect (first second : Part) :
    (connect first second).leaves = first.leaves ++ comma :: second.leaves := by
  simp [connect, Part.punctuation, Part.leaves]

@[simp] theorem leaves_conditional (subject : Part) (particle : ConditionalParticle)
    (result : Part) :
    (conditional subject particle result).leaves =
      subject.leaves ++ particle.kana :: result.leaves := by
  simp [conditional, Part.ofConditional, Part.leaves]

@[simp] theorem leaves_demonstrative (adverb : String) (verb : Part) :
    (demonstrative adverb verb).leaves = adverb :: verb.leaves := by
  simp [demonstrative, Part.adverb, Part.leaves]

@[simp] theorem text_attach (head : Part) (particle : Particle) :
    (attach head particle).text = head.text ++ particle.text := by
  simp [attach, Part.ofParticle, Part.text]

@[simp] theorem text_connect (first second : Part) :
    (connect first second).text = first.text ++ comma ++ second.text := by
  simp [connect, Part.punctuation, Part.text]

@[simp] theorem text_conditional (subject : Part) (particle : ConditionalParticle)
    (result : Part) :
    (conditional subject particle result).text = subject.text ++ particle.kana ++ result.text := by
  simp [conditional, Part.ofConditional, Part.text]

@[simp] theorem text_demonstrative (adverb : String) (verb : Part) :
    (demonstrative adverb verb).text = adverb ++ verb.text := by
  simp [demonstrative, Part.adverb, Part.text]

end Phrase

/-! ### Questions -/

/-- A question like どうして 彼が 来た の. -/
structure Question where
  adverb : String
  subject : Part
  verb : Part
  particle : Particle := .question

namespace Question

/-- The question ended by another particle. -/
def endedBy (question : Question) (particle : Particle) : Question :=
  { question with particle := particle }

/-- The phrase that asks the question. -/
def phrase (question : Question) : Phrase :=
  (((Phrase.empty.push (.adverb question.adverb)).push question.subject).push
    question.verb).push (.ofParticle question.particle)

@[simp] theorem leaves_phrase (question : Question) :
    question.phrase.leaves =
      question.adverb :: question.subject.leaves ++ question.verb.leaves ++
        [question.particle.text] := by
  simp [phrase, Part.adverb, Part.ofParticle, Part.leaves]

@[simp] theorem text_phrase (question : Question) :
    question.phrase.text =
      question.adverb ++ question.subject.text ++ question.verb.text ++
        question.particle.text := by
  simp [phrase, Part.adverb, Part.ofParticle, Part.text]

end Question

end JapaneseInflection
