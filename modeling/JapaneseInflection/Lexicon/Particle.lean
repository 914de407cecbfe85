import JapaneseInflection.Error

/-!
# Nouns and particles

The words that take part in phrases without being conjugated.
-/

namespace JapaneseInflection

/-- A noun, which is not empty. -/
structure Noun where
  text : String
  text_ne : text ≠ ""
  deriving DecidableEq

/-- The noun with the given text. -/
def Noun.ofText? (text : String) : Except Error Noun :=
  if hne : text ≠ "" then .ok ⟨text, hne⟩
  else .error (.invalidLexeme .noun text .emptyNoun)

/-- A particle like よ, か or を. -/
structure Particle where
  text : String
  deriving DecidableEq, Hashable

/-- The particle か, which ends a question. -/
def Particle.question : Particle := ⟨"か"⟩

/-- The particles that turn what stands before them into a condition. -/
inductive ConditionalParticle where
  | nara
  | tara
  | reba
  | «to»
  deriving DecidableEq, Hashable

namespace ConditionalParticle

/-- All conditional particles, in order of declaration. -/
def all : List ConditionalParticle := [nara, tara, reba, «to»]

/-- The kana of a conditional particle. -/
def kana : ConditionalParticle → String
  | nara => "なら"
  | tara => "たら"
  | reba => "れば"
  | «to» => "と"

end ConditionalParticle

end JapaneseInflection
