import JapaneseInflection.Proofs.Inflection.CausativeChoice
import JapaneseInflection.Proofs.Inflection.Texts

/-!
# Forms of a verb that are made from each other

The tables list every form on its own, row by row. Across all rows the same forms go together: one
is another with a kana exchanged at its end, or with kana put behind it.

* `Conjugator.Exchanges` and `Conjugator.Adds` relate two forms of a verb in these two ways.
* `Verb.exists_textIn_te`: te and past begin alike, and end in the kana of `Verb.tePast`.
* `Conjugator.forms_from_forms` says which forms of a verb are so related, whatever its stem.
-/

namespace JapaneseInflection

/-! ### Columns of the table of godan verbs

Each of these facts is about one or two columns, for all rows. -/

namespace GodanEnding

/-- The endings behind which the kana of te and past are voiced. -/
def voicing : List GodanEnding := [gu, nu, bu, mu]

/-- The kana in which te and past end behind the stem and the sound of the ending. -/
def tePast (ending : GodanEnding) : String × String :=
  if ending ∈ voicing then ("で", "だ") else ("て", "た")

/-- Te and past of a row begin with one sound. -/
theorem exists_suffix_te (ending : GodanEnding) :
    ∃ sound, ending.suffix .te = sound ++ ending.tePast.1 ∧
      ending.suffix .past = sound ++ ending.tePast.2 := by
  cases ending
  case u => exact ⟨"っ", by decide⟩
  case ku => exact ⟨"い", by decide⟩
  case gu => exact ⟨"い", by decide⟩
  case su => exact ⟨"し", by decide⟩
  case tsu => exact ⟨"っ", by decide⟩
  case nu => exact ⟨"ん", by decide⟩
  case bu => exact ⟨"ん", by decide⟩
  case mu => exact ⟨"ん", by decide⟩
  case ru => exact ⟨"っ", by decide⟩

theorem suffix_volitional (ending : GodanEnding) :
    ending.suffix .volitional = ending.row.o ++ "う" := rfl

theorem suffix_conditional (ending : GodanEnding) :
    ending.suffix .conditional = ending.suffix .past ++ "ら" := by
  simp [suffix, KanaRow.exponents?]

theorem suffix_passive (ending : GodanEnding) :
    ending.suffix .passive = ending.suffix .negative ++ "れ" := by
  simp [suffix, KanaRow.exponents?]

theorem suffix_causative (ending : GodanEnding) :
    ending.suffix .causative = ending.suffix .negative ++ "せ" := by
  simp [suffix, KanaRow.exponents?]

theorem suffix_hypothetical (ending : GodanEnding) :
    ending.suffix .hypothetical = ending.suffix .potential ++ "ば" := by
  simp [suffix, KanaRow.exponents?]

end GodanEnding

/-! ### Texts of verbs -/

namespace Verb

/-- The godan verbs in ぐ, ぬ, ぶ and む. -/
def IsVoicing (verb : Verb) : Prop :=
  ∃ stem ending, verb = godan stem ending ∧ ending ∈ GodanEnding.voicing

/-- The kana in which te and past of a verb end. -/
def tePast : Verb → String × String
  | godan _ ending => ending.tePast
  | ichidan _ | suru | kuru => ("て", "た")

theorem tePast_of_isVoicing {verb : Verb} (hv : verb.IsVoicing) : verb.tePast = ("で", "だ") := by
  obtain ⟨stem, ending, rfl, hvoicing⟩ := hv
  show ending.tePast = ("で", "だ")
  rw [GodanEnding.tePast, if_pos hvoicing]

theorem tePast_of_not_isVoicing {verb : Verb} (hv : ¬ verb.IsVoicing) :
    verb.tePast = ("て", "た") := by
  cases verb with
  | godan stem ending =>
    have hplain : ending ∉ GodanEnding.voicing := fun h => hv ⟨stem, ending, rfl, h⟩
    show ending.tePast = ("て", "た")
    rw [GodanEnding.tePast, if_neg hplain]
  | ichidan stem => rfl
  | suru => rfl
  | kuru => rfl

variable (causative : Causative)

/-- Te and past of a verb begin alike. -/
theorem exists_textIn_te (verb : Verb) :
    ∃ base, verb.textIn causative .te = base ++ verb.tePast.1 ∧
      verb.textIn causative .past = base ++ verb.tePast.2 := by
  cases verb with
  | godan stem ending =>
    obtain ⟨sound, hte, hpast⟩ := ending.exists_suffix_te
    refine ⟨stem.text ++ sound, ?_, ?_⟩
    · rw [textIn, hte, String.append_assoc]
      rfl
    · rw [textIn, hpast, String.append_assoc]
      rfl
  | ichidan stem => exact ⟨stem.text, by cases causative <;> exact ⟨rfl, rfl⟩⟩
  | suru => exact ⟨"し", by cases causative <;> decide⟩
  | kuru => exact ⟨"来", by cases causative <;> decide⟩

/-- The volitional of every verb ends in う. -/
theorem exists_textIn_volitional (verb : Verb) :
    ∃ base, verb.textIn causative .volitional = base ++ "う" := by
  cases verb with
  | godan stem ending =>
    refine ⟨stem.text ++ ending.row.o, ?_⟩
    rw [textIn, GodanEnding.suffix_volitional, String.append_assoc]
  | ichidan stem =>
    have hyou : ichidanSuffix causative .volitional = "よ" ++ "う" := by
      cases causative <;> decide
    refine ⟨stem.text ++ "よ", ?_⟩
    rw [textIn, hyou, String.append_assoc]
  | suru => exact ⟨"しよ", by cases causative <;> decide⟩
  | kuru => exact ⟨"来よ", by cases causative <;> decide⟩

/-- The conditional is the past with ら behind it, but not for ichidan verbs. -/
theorem textIn_conditional {verb : Verb} (hv : verb.wordClass ≠ .ichidan) :
    verb.textIn causative .conditional = verb.textIn causative .past ++ "ら" := by
  cases verb with
  | godan stem ending =>
    rw [textIn, textIn, GodanEnding.suffix_conditional, String.append_assoc]
  | ichidan stem => exact absurd rfl hv
  | suru => cases causative <;> decide
  | kuru => cases causative <;> decide

/-- A form of godan verbs has a suffix with kana behind it where its column does. -/
theorem textIn_godan_of_suffix {source target : VerbForm} {kana : String}
    (hc : ∀ ending : GodanEnding, ending.suffix target = ending.suffix source ++ kana)
    {verb : Verb} (hv : verb.wordClass = .godan) :
    verb.textIn causative target = verb.textIn causative source ++ kana := by
  cases verb with
  | godan stem ending => rw [textIn, textIn, hc, String.append_assoc]
  | ichidan stem => cases hv
  | suru => cases hv
  | kuru => cases hv

/-- The polite form of ichidan verbs is the bare stem, so that other forms have their suffix behind
it. -/
theorem textIn_of_polite {verb : Verb} (hv : verb.wordClass = .ichidan) (form : VerbForm) :
    verb.textIn causative form =
      verb.textIn causative .polite ++ ichidanSuffix causative form := by
  cases verb with
  | ichidan stem =>
    have hbare : ichidanSuffix causative .polite = "" := by
      cases causative <;> rfl
    rw [textIn, textIn, hbare, String.append_empty]
  | godan stem ending => cases hv
  | suru => cases hv
  | kuru => cases hv

end Verb

/-- The forms that share られ in ichidan verbs under all settings. -/
def sharedForms : List VerbForm := [.potential, .passive, .conditional, .hypothetical]

theorem ichidanSuffix_of_mem_sharedForms (causative : Causative) {form : VerbForm}
    (hf : form ∈ sharedForms) : ichidanSuffix causative form = "られ" := by
  have hall : ∀ form ∈ sharedForms, ichidanSuffix causative form = "られ" := by
    cases causative <;> decide
  exact hall form hf

theorem ichidanSuffix_causative (causative : Causative) :
    ichidanSuffix causative .causative = causative.exponent := by
  rw [ichidanSuffix, ichidanExponent?_causative]
  rfl

/-! ### What conjugators make -/

namespace Conjugator

/-- Two forms of a verb differ in their ends alone: one ends in `old` where the other ends in
`new`. -/
def Exchanges (conjugator : Conjugator) (verb : Verb) (source : VerbForm) (old : String)
    (target : VerbForm) (new : String) : Prop :=
  ∃ base, conjugator.Makes (.verb verb) (.verb source) (base ++ old) ∧
    conjugator.Makes (.verb verb) (.verb target) (base ++ new)

/-- One form of a verb is another with kana behind it. -/
def Adds (conjugator : Conjugator) (verb : Verb) (source : VerbForm) (kana : String)
    (target : VerbForm) : Prop :=
  ∃ text, conjugator.Makes (.verb verb) (.verb source) text ∧
    conjugator.Makes (.verb verb) (.verb target) (text ++ kana)

variable {conjugator : Conjugator} {verb : Verb}

theorem adds_of_textIn {source target : VerbForm} {kana : String}
    (h : verb.textIn conjugator.causative target =
      verb.textIn conjugator.causative source ++ kana) :
    conjugator.Adds verb source kana target :=
  ⟨_, makes_verb_iff.2 rfl, makes_verb_iff.2 h⟩

theorem exchanges_te_past (conjugator : Conjugator) (verb : Verb) :
    conjugator.Exchanges verb .te verb.tePast.1 .past verb.tePast.2 := by
  obtain ⟨base, hte, hpast⟩ := verb.exists_textIn_te conjugator.causative
  exact ⟨base, makes_verb_iff.2 hte, makes_verb_iff.2 hpast⟩

/-- A form of an ichidan verb is its polite form with the suffix of the form. -/
theorem adds_polite (hv : verb.wordClass = .ichidan) {form : VerbForm} {kana : String}
    (hk : ichidanSuffix conjugator.causative form = kana) :
    conjugator.Adds verb .polite kana form := by
  have htext := Verb.textIn_of_polite conjugator.causative hv form
  rw [hk] at htext
  exact adds_of_textIn htext

/-- **Forms of a verb are made from each other.** The past of every verb is its te with the last
kana exchanged, voiced exactly for godan verbs in ぐ, ぬ, ぶ and む, and the volitional ends in う. The
conditional is the past with ら, but for ichidan verbs. Godan verbs make passive and causative from
the negative, and the hypothetical from the potential. Ichidan verbs put られ behind the polite form,
in the causative only if the settings share it there. -/
theorem forms_from_forms (settings : Settings) (verb : Verb) :
    let conjugator := ofSettings settings
    (verb.IsVoicing → conjugator.Exchanges verb .te "で" .past "だ") ∧
    (¬ verb.IsVoicing → conjugator.Exchanges verb .te "て" .past "た") ∧
    (∃ base, conjugator.Makes (.verb verb) (.verb .volitional) (base ++ "う")) ∧
    (verb.wordClass ≠ .ichidan → conjugator.Adds verb .past "ら" .conditional) ∧
    (verb.wordClass = .godan →
      conjugator.Adds verb .negative "れ" .passive ∧
      conjugator.Adds verb .negative "せ" .causative ∧
      conjugator.Adds verb .potential "ば" .hypothetical) ∧
    (verb.wordClass = .ichidan →
      (∀ form ∈ sharedForms, conjugator.Adds verb .polite "られ" form) ∧
      (settings.causative = .collapsed → conjugator.Adds verb .polite "られ" .causative) ∧
      (settings.causative = .split → conjugator.Adds verb .polite "させ" .causative)) := by
  intro conjugator
  have hpair := conjugator.exchanges_te_past verb
  refine ⟨?_, ?_, ?_, ?_, ?_, ?_⟩
  · intro hv
    rwa [Verb.tePast_of_isVoicing hv] at hpair
  · intro hv
    rwa [Verb.tePast_of_not_isVoicing hv] at hpair
  · obtain ⟨base, hbase⟩ := verb.exists_textIn_volitional settings.causative
    exact ⟨base, makes_verb_iff.2 hbase⟩
  · intro hv
    exact adds_of_textIn (Verb.textIn_conditional _ hv)
  · intro hv
    have hpassive := Verb.textIn_godan_of_suffix settings.causative GodanEnding.suffix_passive hv
    have hcausative :=
      Verb.textIn_godan_of_suffix settings.causative GodanEnding.suffix_causative hv
    have hhypothetical :=
      Verb.textIn_godan_of_suffix settings.causative GodanEnding.suffix_hypothetical hv
    exact ⟨adds_of_textIn hpassive, adds_of_textIn hcausative, adds_of_textIn hhypothetical⟩
  · intro hv
    refine ⟨?_, ?_, ?_⟩
    · intro form hf
      exact adds_polite hv (ichidanSuffix_of_mem_sharedForms _ hf)
    · intro hc
      have hshared : ichidanSuffix settings.causative .causative = "られ" := by
        rw [ichidanSuffix_causative, hc]
        rfl
      exact adds_polite hv hshared
    · intro hc
      have hown : ichidanSuffix settings.causative .causative = "させ" := by
        rw [ichidanSuffix_causative, hc]
        rfl
      exact adds_polite hv hown

end Conjugator

end JapaneseInflection
