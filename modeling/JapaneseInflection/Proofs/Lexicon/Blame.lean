import JapaneseInflection.Proofs.Lexicon.Grammar

/-!
# Whom a refusal names

A text that is read in a class and is no dictionary form of it is refused, and the refusal names a
class and quotes a piece of the text. The class is the one asked for, also where verbs are read in a
class of adjectives or the other way round. Only a text that no irregular verb has is always blamed
on する, even where it is read as 来る.

* `Blames` relates a class and a text to the refusals that name the class and quote the text.
* `Blames.of_stem`: what is built from a stem is refused with the class if its stem and its ending
  are.
* `Verb.blames_of_ofDictionary?`, `Adjective.blames_of_ofDictionary?` and
  `Word.blames_of_ofDictionary?` say whom a refusal names, and `refusal_blames` when it is the class
  asked for.
-/

namespace JapaneseInflection

/-- A refusal names the class, and quotes nothing of the text, its last character or all of it. -/
inductive Blames (wordClass : WordClass) (text : String) : Error → Prop
  | nothing (complaint : Complaint) :
      Blames wordClass text (.invalidLexeme (.word wordClass) "" complaint)
  | final {c : Char} (hlast : text.toList.getLast? = some c) (complaint : Complaint) :
      Blames wordClass text (.invalidLexeme (.word wordClass) (String.ofList [c]) complaint)
  | whole (complaint : Complaint) :
      Blames wordClass text (.invalidLexeme (.word wordClass) text complaint)

namespace Blames

variable {wordClass other : WordClass} {text : String} {cause : Error}

/-- A refusal names one class. -/
theorem wordClass_eq (h : Blames wordClass text cause) (ho : Blames other text cause) :
    wordClass = other := by
  have hnamed : ∀ {k}, Blames k text cause →
      ∃ value complaint, cause = .invalidLexeme (.word k) value complaint := by
    intro k hk
    cases hk <;> exact ⟨_, _, rfl⟩
  obtain ⟨value, complaint, hcause⟩ := hnamed h
  obtain ⟨value', complaint', hcause'⟩ := hnamed ho
  rw [hcause] at hcause'
  exact LexemeKind.word.inj (Error.invalidLexeme.inj hcause').1

/-- What is split off at the end of a text is its last character, or nothing. -/
theorem of_splitFinal (wordClass : WordClass) (text : String) (complaint : Complaint) :
    Blames wordClass text (.invalidLexeme (.word wordClass) (splitFinal text).2 complaint) := by
  cases hlast : text.toList.getLast? with
  | none =>
    have hend : (splitFinal text).2 = "" := by
      rw [splitFinal, hlast]
      rfl
    exact hend ▸ nothing complaint
  | some c =>
    have hend : (splitFinal text).2 = String.ofList [c] := by
      rw [splitFinal, hlast]
      rfl
    exact hend ▸ final hlast complaint

/-- What is built from a text by looking at the stem first names the class in all its refusals, if
it does so once there is a stem. -/
theorem of_stem {α : Type} {written : String} {build : Stem → Except Error α}
    (hbuild : ∀ stem, build stem = .error cause → Blames wordClass text cause)
    (h : (Stem.ofText? wordClass written).bind build = .error cause) :
    Blames wordClass text cause := by
  by_cases hne : written ≠ ""
  · rw [Stem.ofText?, dif_pos hne] at h
    exact hbuild _ h
  · obtain rfl : written = "" := Decidable.not_not.1 hne
    obtain rfl := Except.error.inj h
    exact nothing .emptyStem

/-- A class with a single ending names itself where it is refused another ending. -/
theorem of_ending {α : Type} {ending : String} {built : α} {complaint : Complaint}
    (h : (if (splitFinal text).2 = ending then Except.ok built
      else .error (.invalidLexeme (.word wordClass) (splitFinal text).2 complaint)) =
        .error cause) :
    Blames wordClass text cause := by
  by_cases hend : (splitFinal text).2 = ending
  · rw [if_pos hend] at h
    cases h
  · rw [if_neg hend] at h
    obtain rfl := Except.error.inj h
    exact of_splitFinal wordClass text complaint

end Blames

/-! ### Verbs -/

namespace Verb

variable {wordClass : WordClass} {text : String} {cause : Error}

theorem blames_of_godan? (h : godan? (splitFinal text).1 (splitFinal text).2 = .error cause) :
    Blames .godan text cause := by
  refine Blames.of_stem (fun stem hstem => ?_) h
  cases hread : GodanEnding.ofText? (splitFinal text).2 with
  | some ending =>
    rw [hread] at hstem
    cases hstem
  | none =>
    rw [hread] at hstem
    obtain rfl := Except.error.inj hstem
    exact Blames.of_splitFinal .godan text .notGodanEnding

theorem blames_of_ichidan? (h : ichidan? (splitFinal text).1 (splitFinal text).2 = .error cause) :
    Blames .ichidan text cause :=
  Blames.of_stem (fun _ => Blames.of_ending) h

/-- The look-up of an irregular verb does not know which one was asked for, and names する. -/
theorem irregular?_eq_error (h : irregular? text = .error cause) :
    text ≠ "する" ∧ cause = .invalidLexeme (.word .suru) text .notIrregular := by
  by_cases hs : text = "する"
  · rw [irregular?, if_pos hs] at h
    cases h
  · rw [irregular?, if_neg hs] at h
    split at h
    · cases h
    · exact ⟨hs, (Except.error.inj h).symm⟩

/-- A text other than する is looked up as 来る, if it is an irregular verb at all. -/
theorem irregular?_eq_ok {verb : Verb} (h : irregular? text = .ok verb) :
    text = "する" ∨ verb.wordClass = .kuru := by
  by_cases hs : text = "する"
  · exact Or.inl hs
  · rw [irregular?, if_neg hs] at h
    split at h
    · obtain rfl := Except.ok.inj h
      exact Or.inr rfl
    · cases h

/-- An irregular verb is refused with its own class, but for a text that no irregular verb has. -/
theorem blames_of_irregular {wordClass : WordClass}
    (hclass : wordClass = .suru ∨ wordClass = .kuru)
    (h : (do
      let verb ← irregular? text
      if verb.wordClass = wordClass then Except.ok verb
      else .error (.invalidLexeme (.word wordClass) text .otherIrregular)) = .error cause) :
    Blames (blamedClass wordClass text) text cause := by
  cases hfound : irregular? text with
  | error first =>
    obtain ⟨hs, rfl⟩ := irregular?_eq_error hfound
    rw [hfound] at h
    obtain rfl := Except.error.inj h
    have hblamed : blamedClass wordClass text = .suru := by
      rcases hclass with rfl | rfl
      · exact if_neg fun hk => nomatch hk.1
      · exact if_pos ⟨rfl, hs⟩
    rw [hblamed]
    exact Blames.whole .notIrregular
  | ok verb =>
    have hchecked : (if verb.wordClass = wordClass then Except.ok verb
        else .error (.invalidLexeme (.word wordClass) text .otherIrregular)) = .error cause := by
      rw [hfound] at h
      exact h
    by_cases hsame : verb.wordClass = wordClass
    · rw [if_pos hsame] at hchecked
      cases hchecked
    · rw [if_neg hsame] at hchecked
      obtain rfl := Except.error.inj hchecked
      -- 来る finds another verb than itself in the dictionary form of する only
      have hblamed : blamedClass wordClass text = wordClass := by
        refine if_neg fun hk => ?_
        rcases irregular?_eq_ok hfound with hs | hv
        · exact hk.2 hs
        · exact hsame (hv.trans hk.1.symm)
      rw [hblamed]
      exact Blames.whole .otherIrregular

/-- Whom a refused verb is blamed on. -/
theorem blames_of_ofDictionary? (h : ofDictionary? wordClass text = .error cause) :
    Blames (blamedClass wordClass text) text cause := by
  have hself : wordClass ≠ .kuru → blamedClass wordClass text = wordClass :=
    fun hk => if_neg fun h => hk h.1
  cases wordClass with
  | godan => exact hself nofun ▸ blames_of_godan? h
  | ichidan => exact hself nofun ▸ blames_of_ichidan? h
  | suru => exact blames_of_irregular (Or.inl rfl) h
  | kuru => exact blames_of_irregular (Or.inr rfl) h
  | iAdjective | naAdjective =>
    obtain rfl := Except.error.inj h
    exact hself nofun ▸ Blames.whole .notVerbClass

end Verb

/-! ### Adjectives -/

namespace Adjective

variable {wordClass : WordClass} {text : String} {cause : Error}

theorem blames_of_i? (h : i? (splitFinal text).1 (splitFinal text).2 = .error cause) :
    Blames .iAdjective text cause :=
  Blames.of_stem (fun _ => Blames.of_ending) h

/-- With a stem there is nothing left to refuse in a na-adjective. -/
theorem blames_of_na? {written : String} (h : na? written = .error cause) :
    Blames .naAdjective text cause := by
  have hbuild : ∀ stem, (Except.ok (na stem) : Except Error Adjective) = .error cause →
      Blames .naAdjective text cause := nofun
  exact Blames.of_stem hbuild h

/-- A refused adjective is always blamed on the class asked for. -/
theorem blames_of_ofDictionary? (h : ofDictionary? wordClass text = .error cause) :
    Blames wordClass text cause := by
  cases wordClass with
  | iAdjective => exact blames_of_i? h
  | naAdjective => exact blames_of_na? h
  | godan | ichidan | suru | kuru =>
    obtain rfl := Except.error.inj h
    exact Blames.whole .notAdjectiveClass

end Adjective

/-! ### Words -/

theorem eq_error_of_map_eq_error {ε α β : Type} {f : α → β} {attempt : Except ε α}
    {cause : ε} (h : attempt.map f = .error cause) : attempt = .error cause := by
  cases attempt with
  | error first =>
    obtain rfl := Except.error.inj h
    rfl
  | ok a => cases h

/-- Whom a refused word is blamed on. -/
theorem Word.blames_of_ofDictionary? {wordClass : WordClass} {text : String} {cause : Error}
    (h : ofDictionary? wordClass text = .error cause) :
    Blames (blamedClass wordClass text) text cause := by
  by_cases hverb : wordClass.isVerb = true
  · rw [ofDictionary?, if_pos hverb] at h
    exact Verb.blames_of_ofDictionary? (eq_error_of_map_eq_error h)
  · rw [ofDictionary?, if_neg hverb] at h
    have hself : blamedClass wordClass text = wordClass := by
      refine if_neg fun hk => hverb ?_
      rw [hk.1]
      rfl
    rw [hself]
    exact Adjective.blames_of_ofDictionary? (eq_error_of_map_eq_error h)

theorem blamedClass_eq_iff (wordClass : WordClass) (text : String) :
    blamedClass wordClass text = wordClass ↔ ¬(wordClass = .kuru ∧ text ≠ "する") := by
  by_cases hk : wordClass = .kuru ∧ text ≠ "する"
  · rw [blamedClass, if_pos hk, hk.1]
    exact iff_of_false (by decide) fun h => h ⟨rfl, hk.2⟩
  · rw [blamedClass, if_neg hk]
    exact iff_of_true rfl hk

/-- A refusal that is blamed on some class is blamed on the class asked for exactly if the two are
the same. -/
theorem Blames.self_iff {wordClass : WordClass} {text : String} {cause : Error}
    (h : Blames (blamedClass wordClass text) text cause) :
    Blames wordClass text cause ↔ ¬(wordClass = .kuru ∧ text ≠ "する") := by
  rw [← blamedClass_eq_iff]
  constructor
  · intro hself
    exact h.wordClass_eq hself
  · intro hsame
    exact hsame ▸ h

/-- **A refusal names the class asked for, unless this is 来る.** A text that cannot be read as an
adjective, as a verb or as a word of a class is refused by the name of a class, with nothing of the
text, with its last character or with all of it. The class is the one asked for, except that a verb
or a word asked for as 来る is blamed on する, unless its text is する. -/
theorem refusal_blames (wordClass : WordClass) (text : String) :
    (∀ cause, Adjective.ofDictionary? wordClass text = .error cause →
      Blames wordClass text cause) ∧
    (∀ cause, Verb.ofDictionary? wordClass text = .error cause →
      Blames (blamedClass wordClass text) text cause ∧
        (Blames wordClass text cause ↔ ¬(wordClass = .kuru ∧ text ≠ "する"))) ∧
    (∀ cause, Word.ofDictionary? wordClass text = .error cause →
      Blames (blamedClass wordClass text) text cause ∧
        (Blames wordClass text cause ↔ ¬(wordClass = .kuru ∧ text ≠ "する"))) := by
  refine ⟨fun cause => Adjective.blames_of_ofDictionary?, fun cause h => ?_, fun cause h => ?_⟩
  · have hblamed := Verb.blames_of_ofDictionary? h
    exact ⟨hblamed, hblamed.self_iff⟩
  · have hblamed := Word.blames_of_ofDictionary? h
    exact ⟨hblamed, hblamed.self_iff⟩

/-- 食べる is refused as 来る, but the refusal does not name 来る. -/
theorem not_blames_kuru :
    ∃ cause, Word.ofDictionary? .kuru "食べる" = .error cause ∧ ¬ Blames .kuru "食べる" cause := by
  refine ⟨.invalidLexeme (.word .suru) "食べる" .notIrregular, rfl, ?_⟩
  intro h
  cases h

end JapaneseInflection
