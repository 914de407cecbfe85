import JapaneseInflection.Proofs.Phrase.Congruence

/-!
# Laws of the templates

Templates put into each other in different ways can make the same row of leaves: the same texts in
the same order, with no text more or less, not even an empty one. Such phrases spell the same text,
and no field tells them apart.

* `Phrase.SameLeaves` relates such phrases.
* `Question.foldl_endedBy`: of the particles that end a question in turn, the last one stays.
* `Phrase.templates_sameLeaves` lists the laws.
-/

namespace JapaneseInflection

namespace Phrase

/-- Two phrases have the same leaves, whatever their kinds and however they are nested. -/
def SameLeaves (a b : Phrase) : Prop :=
  a.leaves = b.leaves

namespace SameLeaves

variable {a b : Phrase}

theorem text_eq (h : SameLeaves a b) : a.text = b.text := by
  rw [text_eq_join_leaves, text_eq_join_leaves, h]

/-- Phrases with the same leaves are equal. -/
theorem beq (h : SameLeaves a b) : (a == b) = true :=
  beq_iff_text_eq.2 h.text_eq

/-- Phrases with the same leaves are hashed from the same text. -/
theorem hashInput_eq (h : SameLeaves a b) : a.hashInput = b.hashInput :=
  h.text_eq

/-- Phrases with the same leaves look alike in every field. -/
theorem render_eq (h : SameLeaves a b) (field : Field) : a.render field = b.render field := by
  rw [render_eq_join_leaves, render_eq_join_leaves, h]

end SameLeaves

/-! ### Templates inside templates -/

/-- A row of connected parts may be put together from either end. -/
theorem connect_assoc (a b c : Part) :
    SameLeaves (connect (connect a b).toPart c) (connect a (connect b c).toPart) := by
  simp only [SameLeaves, leaves_connect, leaves_toPart, List.append_assoc, List.cons_append]

/-- A particle behind two connected parts stands behind the second. -/
theorem attach_connect (a b : Part) (particle : Particle) :
    SameLeaves (attach (connect a b).toPart particle) (connect a (attach b particle).toPart) := by
  simp only [SameLeaves, leaves_attach, leaves_connect, leaves_toPart, List.append_assoc,
    List.cons_append]

/-- An adverb before two connected parts stands before the first. -/
theorem demonstrative_connect (adverb : String) (a b : Part) :
    SameLeaves (demonstrative adverb (connect a b).toPart)
      (connect (demonstrative adverb a).toPart b) := by
  simp only [SameLeaves, leaves_demonstrative, leaves_connect, leaves_toPart, List.cons_append]

theorem leaves_pair (a b : Part) : leaves ⟨[a, b]⟩ = a.leaves ++ b.leaves := by
  rw [leaves, Part.leavesOfList, Part.leavesOfList, Part.leavesOfList, List.append_nil]

/-- A condition is its subject with the particle behind it, and then the result. -/
theorem conditional_attach (subject : Part) (particle : ConditionalParticle) (result : Part) :
    SameLeaves (conditional subject particle result)
      ⟨[(attach subject ⟨particle.kana⟩).toPart, result]⟩ := by
  rw [SameLeaves, leaves_conditional, leaves_pair, leaves_toPart, leaves_attach, List.append_assoc,
    List.singleton_append]

end Phrase

/-! ### Questions -/

namespace Question

/-- A question ended by one particle after the other is the question ended by the last one, or the
question itself where there is none. -/
theorem foldl_endedBy (question : Question) (particles : List Particle) :
    particles.foldl endedBy question =
      question.endedBy (particles.getLast?.getD question.particle) := by
  induction particles generalizing question with
  | nil => rfl
  | cons particle rest ih =>
    rw [List.foldl_cons, ih, List.getLast?_cons, Option.getD_some]
    rfl

/-- A question is a particle behind an adverb that stands before the subject and the verb. -/
theorem sameLeaves_attach (question : Question) :
    Phrase.SameLeaves question.phrase
      (Phrase.attach (Phrase.demonstrative question.adverb
        (Phrase.toPart ⟨[question.subject, question.verb]⟩)).toPart question.particle) := by
  simp only [Phrase.SameLeaves, leaves_phrase, Phrase.leaves_attach, Phrase.leaves_demonstrative,
    Phrase.leaves_toPart, Phrase.leaves_pair, List.append_assoc, List.cons_append]

end Question

namespace Phrase

/-- **Templates are equal up to flattening.** Phrases with the same leaves are equal, hashed alike
and printed alike in every field. And for all parts and texts there are the same leaves: in parts
connected from either end; in a particle behind connected parts and behind the last of them; in an
adverb before connected parts and before the first of them; in a condition and in its subject with
the particle, followed by the result; and in a question, ended by any particles in turn, and in the
last of these, or か, behind the adverb that stands before the subject and the verb. -/
theorem templates_sameLeaves :
    (∀ a b : Phrase, SameLeaves a b →
      (a == b) = true ∧ a.hashInput = b.hashInput ∧ ∀ field, a.render field = b.render field) ∧
    (∀ a b c : Part,
      SameLeaves (connect (connect a b).toPart c) (connect a (connect b c).toPart)) ∧
    (∀ (a b : Part) (text : String),
      SameLeaves (attach (connect a b).toPart ⟨text⟩) (connect a (attach b ⟨text⟩).toPart)) ∧
    (∀ (adverb : String) (a b : Part),
      SameLeaves (demonstrative adverb (connect a b).toPart)
        (connect (demonstrative adverb a).toPart b)) ∧
    (∀ (subject : Part) (particle : ConditionalParticle) (result : Part),
      SameLeaves (conditional subject particle result)
        ⟨[(attach subject ⟨particle.kana⟩).toPart, result]⟩) ∧
    (∀ (adverb : String) (subject verb : Part) (texts : List String),
      let asked : Question := { adverb, subject, verb }
      SameLeaves (texts.foldl (fun question text => question.endedBy ⟨text⟩) asked).phrase
        (attach (demonstrative adverb (toPart ⟨[subject, verb]⟩)).toPart
          ⟨texts.getLast?.getD "か"⟩)) := by
  refine ⟨fun a b h => ⟨h.beq, h.hashInput_eq, h.render_eq⟩, connect_assoc,
    fun a b text => attach_connect a b ⟨text⟩, demonstrative_connect, conditional_attach,
    fun adverb subject verb texts => ?_⟩
  intro asked
  have hfold : texts.foldl (fun question text => question.endedBy ⟨text⟩) asked =
      asked.endedBy ⟨texts.getLast?.getD "か"⟩ := by
    have hmap := asked.foldl_endedBy (texts.map Particle.mk)
    rw [List.foldl_map, List.getLast?_map] at hmap
    rw [hmap]
    cases texts.getLast? <;> rfl
  rw [hfold]
  exact (asked.endedBy _).sameLeaves_attach

/-- A question ended twice keeps the second particle. -/
example :
    let question : Question :=
      { adverb := "どうして", subject := .leaf .noun "彼が", verb := .verb "来た" }
    ((question.endedBy ⟨"か"⟩).endedBy ⟨"の"⟩).phrase.leaves = ["どうして", "彼が", "来た", "の"] := by
  decide

end Phrase

end JapaneseInflection
