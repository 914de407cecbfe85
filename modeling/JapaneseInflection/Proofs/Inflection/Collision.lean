import JapaneseInflection.Proofs.Inflection.Texts

/-!
# Words of one class with the same text

Two words of a class that are put into the same form have the same text only in known cases: godan
verbs with one stem in the euphonic forms, where several endings sound alike, and いい and よい where
both stand on the root よ.

* `GodanEnding.suffix_eq_iff` says which endings share a suffix.
* `Stem.rootIn_eq_iff` says which stems of i-adjectives share a root.
* `Word.Collides` lists the pairs of words, and `Conjugator.text_eq_iff` says that there are no
  others.
-/

namespace JapaneseInflection

/-! ### Endings that sound alike -/

namespace GodanEnding

/-- The endings that turn into っ in the euphonic forms. -/
def geminating : List GodanEnding := [u, tsu, ru]

/-- The endings that turn into ん in the euphonic forms. -/
def nasal : List GodanEnding := [nu, bu, mu]

/-- Both endings turn into the same sound in the euphonic forms. -/
def SoundsLike (first second : GodanEnding) : Prop :=
  (first ∈ geminating ∧ second ∈ geminating) ∨ (first ∈ nasal ∧ second ∈ nasal)

instance (first second : GodanEnding) : Decidable (first.SoundsLike second) :=
  inferInstanceAs (Decidable (_ ∨ _))

theorem te_eq_iff (first second : GodanEnding) :
    first.row.te = second.row.te ↔ first = second ∨ first.SoundsLike second := by
  cases first <;> cases second <;> decide +kernel

theorem past_eq_iff (first second : GodanEnding) :
    first.row.past = second.row.past ↔ first = second ∨ first.SoundsLike second := by
  cases first <;> cases second <;> decide +kernel

/-- Two endings have the same suffix in a form exactly when they are equal, or the form is euphonic
and they sound alike in it. -/
theorem suffix_eq_iff {first second : GodanEnding} {form : VerbForm} :
    first.suffix form = second.suffix form ↔
      first = second ∨ (form.IsEuphonic ∧ first.SoundsLike second) := by
  by_cases hf : form.IsEuphonic
  · rw [and_iff_right hf]
    rcases hf with rfl | rfl | rfl
    · show first.row.te ++ "" = second.row.te ++ "" ↔ _
      rw [String.append_left_inj, te_eq_iff]
    · show first.row.past ++ "" = second.row.past ++ "" ↔ _
      rw [String.append_left_inj, past_eq_iff]
    · show first.row.past ++ "ら" = second.row.past ++ "ら" ↔ _
      rw [String.append_left_inj, past_eq_iff]
  · rw [or_iff_left fun h => hf h.1]
    exact ⟨suffix_injective hf, fun h => by rw [h]⟩

end GodanEnding

/-! ### Stems with one root -/

namespace Stem

/-- One stem is that of いい, and the other that of よい. -/
def IrregularPair (stem other : Stem) : Prop :=
  (stem.text = "い" ∧ other.text = "よ") ∨ (stem.text = "よ" ∧ other.text = "い")

theorem IrregularPair.isIrregular {stem other : Stem} (hp : stem.IrregularPair other) :
    stem.isIrregular = true ∧ other.isIrregular = true := by
  rcases hp with h | h
  · exact ⟨isIrregular_iff.2 (Or.inl h.1), isIrregular_iff.2 (Or.inr h.2)⟩
  · exact ⟨isIrregular_iff.2 (Or.inr h.1), isIrregular_iff.2 (Or.inl h.2)⟩

theorem eq_or_irregularPair {stem other : Stem} (hs : stem.isIrregular = true)
    (ho : other.isIrregular = true) : stem = other ∨ stem.IrregularPair other := by
  rcases isIrregular_iff.1 hs with h | h <;> rcases isIrregular_iff.1 ho with h' | h'
  · exact Or.inl (Stem.ext (h.trans h'.symm))
  · exact Or.inr (Or.inl ⟨h, h'⟩)
  · exact Or.inr (Or.inr ⟨h, h'⟩)
  · exact Or.inl (Stem.ext (h.trans h'.symm))

theorem rootIn_of_rooted {form : AdjectiveForm} (hf : form = .past ∨ form = .negative)
    (stem : Stem) :
    stem.rootIn form = if stem.isIrregular = true then irregularRoot else stem.text := by
  simp [rootIn, hf]

/-- A regular stem is not the root of the irregular ones. -/
theorem text_ne_root {stem : Stem} (hs : ¬ stem.isIrregular = true) : stem.text ≠ irregularRoot :=
  fun h => hs (isIrregular_iff.2 (Or.inr h))

/-- Two stems have the same root in a form exactly when they are equal, or they are those of いい and
よい and the form stands on よ. -/
theorem rootIn_eq_iff {stem other : Stem} {form : AdjectiveForm} :
    stem.rootIn form = other.rootIn form ↔
      stem = other ∨ ((form = .past ∨ form = .negative) ∧ stem.IrregularPair other) := by
  by_cases hf : form = .past ∨ form = .negative
  · rw [and_iff_right hf, rootIn_of_rooted hf, rootIn_of_rooted hf]
    constructor
    · intro h
      by_cases hs : stem.isIrregular = true <;> by_cases ho : other.isIrregular = true
      · exact eq_or_irregularPair hs ho
      · rw [if_pos hs, if_neg ho] at h
        exact absurd h.symm (text_ne_root ho)
      · rw [if_neg hs, if_pos ho] at h
        exact absurd h (text_ne_root hs)
      · rw [if_neg hs, if_neg ho] at h
        exact Or.inl (Stem.ext h)
    · rintro (h | h)
      · rw [h]
      · rw [if_pos h.isIrregular.1, if_pos h.isIrregular.2]
  · rw [rootIn, rootIn, if_neg fun h => hf h.2, if_neg fun h => hf h.2, ← Stem.ext_iff,
      or_iff_left fun h => hf h.1]

end Stem

/-! ### Verbs and adjectives -/

/-- The adjective よい. -/
def Adjective.yoi : Adjective :=
  i ⟨"よ", by decide⟩ true rfl

/-- The pairs of words that a form does not tell apart: godan verbs with one stem, whose endings
sound alike in the euphonic forms, and いい and よい, which stand on よ in the past and the
negative. -/
inductive Word.Collides : Form → Word → Word → Prop
  | euphonic (stem : Stem) {first second : GodanEnding} {form : VerbForm}
      (hform : form.IsEuphonic) (halike : first.SoundsLike second) :
      Collides (.verb form) (.verb (.godan stem first)) (.verb (.godan stem second))
  | good {a b : Adjective} {form : AdjectiveForm} (hform : form = .past ∨ form = .negative)
      (hpair : (a = .ii ∧ b = .yoi) ∨ (a = .yoi ∧ b = .ii)) :
      Collides (.adjective form) (.adjective a) (.adjective b)

namespace Verb

/-- Verbs of one class are equal, or godan, or ichidan: an irregular verb is alone in its class. -/
theorem sameClass_cases {v w : Verb} (hclass : v.wordClass = w.wordClass) :
    v = w ∨
    (∃ stem first other second, v = godan stem first ∧ w = godan other second) ∨
    ∃ stem other, v = ichidan stem ∧ w = ichidan other := by
  cases v <;> cases w
  case godan.godan stem first other second => exact Or.inr (Or.inl ⟨_, _, _, _, rfl, rfl⟩)
  case ichidan.ichidan stem other => exact Or.inr (Or.inr ⟨_, _, rfl, rfl⟩)
  case suru.suru => exact Or.inl rfl
  case kuru.kuru => exact Or.inl rfl
  all_goals cases hclass

theorem collides_godan_iff {stem other : Stem} {first second : GodanEnding} {form : VerbForm} :
    Word.Collides (.verb form) (.verb (godan stem first)) (.verb (godan other second)) ↔
      stem = other ∧ form.IsEuphonic ∧ first.SoundsLike second := by
  constructor
  · intro h
    cases h with
    | euphonic stem hform halike => exact ⟨rfl, hform, halike⟩
  · rintro ⟨rfl, hform, halike⟩
    exact .euphonic stem hform halike

theorem not_collides_ichidan {stem other : Stem} {form : VerbForm} :
    ¬ Word.Collides (.verb form) (.verb (ichidan stem)) (.verb (ichidan other)) := by
  intro h
  cases h

theorem textIn_eq_iff {causative : Causative} {v w : Verb} {form : VerbForm}
    (hclass : v.wordClass = w.wordClass) :
    v.textIn causative form = w.textIn causative form ↔
      v = w ∨ Word.Collides (.verb form) (.verb v) (.verb w) := by
  obtain rfl | ⟨stem, first, other, second, rfl, rfl⟩ | ⟨stem, other, rfl, rfl⟩ :=
    sameClass_cases hclass
  · exact iff_of_true rfl (Or.inl rfl)
  · rw [textIn_godan_eq_iff, GodanEnding.suffix_eq_iff, collides_godan_iff, godan.injEq,
      and_or_left]
  · rw [or_iff_left not_collides_ichidan, textIn, textIn, String.append_left_inj, ichidan.injEq,
      Stem.ext_iff]

end Verb

namespace Adjective

/-- I-adjectives collide exactly when one is いい, the other is よい, and the form stands on よ. -/
theorem collides_i_iff {stem other : Stem} {irregular mark : Bool}
    {hirregular : irregular = stem.isIrregular} {hmark : mark = other.isIrregular}
    {form : AdjectiveForm} :
    Word.Collides (.adjective form) (.adjective (i stem irregular hirregular))
        (.adjective (i other mark hmark)) ↔
      (form = .past ∨ form = .negative) ∧ stem.IrregularPair other := by
  have hii : ∀ {stem : Stem} {irregular : Bool} {hirregular : irregular = stem.isIrregular},
      i stem irregular hirregular = ii ↔ stem.text = "い" := i_eq_i_iff.trans Stem.ext_iff
  have hyoi : ∀ {stem : Stem} {irregular : Bool} {hirregular : irregular = stem.isIrregular},
      i stem irregular hirregular = yoi ↔ stem.text = "よ" := i_eq_i_iff.trans Stem.ext_iff
  constructor
  · intro h
    cases h with
    | good hform hpair => exact ⟨hform, by rwa [hii, hyoi, hyoi, hii] at hpair⟩
  · rintro ⟨hform, hpair⟩
    exact .good hform (by rwa [hii, hyoi, hyoi, hii])

theorem not_collides_na {stem other : Stem} {form : AdjectiveForm} :
    ¬ Word.Collides (.adjective form) (.adjective (na stem)) (.adjective (na other)) := by
  intro h
  cases h with
  | good hform hpair => rcases hpair with ⟨h, -⟩ | ⟨h, -⟩ <;> cases h

theorem textIn?_eq_iff {a b : Adjective} {form : AdjectiveForm} {s t : String}
    (hclass : a.wordClass = b.wordClass) (hs : a.textIn? form = some s)
    (ht : b.textIn? form = some t) :
    s = t ↔ a = b ∨ Word.Collides (.adjective form) (.adjective a) (.adjective b) := by
  cases a with
  | i stem irregular hirregular =>
    cases b with
    | i other mark hmark =>
      obtain ⟨suffix, hsuffix, rfl⟩ := Option.map_eq_some_iff.1 hs
      rw [textIn?, hsuffix] at ht
      obtain rfl := Option.some.inj ht
      rw [String.append_left_inj, Stem.rootIn_eq_iff, i_eq_i_iff, collides_i_iff]
    | na other => cases hclass
  | na stem =>
    cases b with
    | na other =>
      obtain rfl := Option.some.inj hs
      obtain rfl := Option.some.inj ht
      rw [or_iff_left not_collides_na, String.append_left_inj, na.injEq, Stem.ext_iff]
    | i other mark hmark => cases hclass

end Adjective

/-! ### Words -/

/-- No class has both verbs and adjectives. -/
theorem Verb.wordClass_ne (verb : Verb) (adjective : Adjective) :
    verb.wordClass ≠ adjective.wordClass := by
  intro h
  have hkind := congrArg WordClass.isVerb h
  rw [verb.wordClass_isVerb, adjective.wordClass_isVerb] at hkind
  cases hkind

namespace Conjugator

/-- **Words of a class collide in the known cases only.** Two words of a class that a conjugator can
put into a form have the same text in it exactly when they are equal, or they are godan verbs with
one stem and endings that sound alike in the form, or they are いい and よい and the form stands
on よ. -/
theorem text_eq_iff (settings : Settings) {form : Form} {v w : Word}
    (hclass : v.wordClass = w.wordClass) {s t : String}
    (hs : (ofSettings settings).Makes v form s) (ht : (ofSettings settings).Makes w form t) :
    s = t ↔ v = w ∨ Word.Collides form v w := by
  rcases v with v | a
  · rcases w with w | b
    · cases form with
      | verb form =>
        rw [makes_verb_iff] at hs ht
        rw [← hs, ← ht, Verb.textIn_eq_iff hclass, Word.verb.injEq]
      | adjective form =>
        obtain ⟨made, hm, -⟩ := hs
        cases hm
    · exact absurd hclass (v.wordClass_ne b)
  · rcases w with w | b
    · exact absurd hclass.symm (w.wordClass_ne a)
    · cases form with
      | verb form =>
        obtain ⟨made, hm, -⟩ := hs
        cases hm
      | adjective form =>
        rw [makes_adjective_iff] at hs ht
        rw [Adjective.textIn?_eq_iff hclass hs ht, Word.adjective.injEq]

/-- いい and よい are different and have the past よかった in common. -/
theorem text_eq_iff_of_good :
    (Word.adjective .ii).wordClass = (Word.adjective .yoi).wordClass ∧
    (Conjugator.ofSettings {}).Makes (.adjective .ii) (.adjective .past) "よかった" ∧
    (Conjugator.ofSettings {}).Makes (.adjective .yoi) (.adjective .past) "よかった" ∧
    ("よかった" = "よかった" ↔ Word.adjective .ii = .adjective .yoi ∨
      Word.Collides (.adjective .past) (.adjective .ii) (.adjective .yoi)) := by
  have hii : (Conjugator.ofSettings {}).Makes (.adjective .ii) (.adjective .past) "よかった" :=
    makes_adjective_iff.2 (by decide)
  have hyoi : (Conjugator.ofSettings {}).Makes (.adjective .yoi) (.adjective .past) "よかった" :=
    makes_adjective_iff.2 (by decide)
  have hclass : (Word.adjective .ii).wordClass = (Word.adjective .yoi).wordClass := rfl
  exact ⟨hclass, hii, hyoi, text_eq_iff {} hclass hii hyoi⟩

end Conjugator

end JapaneseInflection
