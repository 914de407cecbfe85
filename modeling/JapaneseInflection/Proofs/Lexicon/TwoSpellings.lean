import JapaneseInflection.Proofs.Inflection.Texts
import JapaneseInflection.Proofs.Lexicon.Parts

/-!
# The two spellings of na-adjectives

A na-adjective may be read from its stem, or from its stem and な. The spelling with な is always
understood. The bare one is not where the stem itself ends in な, since it is then the spelling with
な of a shorter stem: おとな is read as おと and な.

* `Adjective.ofDictionary?_of_bare` and `Adjective.ofDictionary?_append_na` say how the two spellings
  are read.
* `Adjective.not_reads_both_spellings`: no other way to read texts could do better.
* `Adjective.ofDictionary?_with_or_without_na` is the whole account for one stem.
-/

namespace JapaneseInflection

namespace Adjective

/-! ### Reading the two spellings -/

/-- A な at the end of a text is not taken for a part of the stem. -/
theorem ofDictionary?_append_na (text : String) :
    ofDictionary? .naAdjective (text ++ "な") = na? text := by
  show na? (dropFinal 'な' (text ++ String.ofList ['な'])) = na? text
  rw [dropFinal_append_singleton]

/-- A text without な at its end is the stem. -/
theorem ofDictionary?_of_bare {text : String} (hbare : ∀ rest, text ≠ rest ++ "な") :
    ofDictionary? .naAdjective text = na? text := by
  show na? (dropFinal 'な' text) = na? text
  obtain h | ⟨h, -⟩ := dropFinal_cases 'な' text
  · exact absurd h (hbare _)
  · rw [← h]

/-- Different texts are not stems of one adjective. -/
theorem na?_injective {text other : String} {adjective : Adjective}
    (ht : na? text = .ok adjective) (ho : na? other = .ok adjective) : text = other := by
  obtain ⟨stem, rfl, rfl⟩ := na?_eq_ok_iff.1 ht
  obtain ⟨stem', rfl, hsame⟩ := na?_eq_ok_iff.1 ho
  rw [na.inj hsame]

/-- The bare spelling of a stem is understood exactly if it does not end in な. -/
theorem ofDictionary?_eq_ok_iff_bare {text : String} {adjective : Adjective}
    (ha : na? text = .ok adjective) :
    ofDictionary? .naAdjective text = .ok adjective ↔ ∀ rest, text ≠ rest ++ "な" := by
  constructor
  · intro hread rest htext
    rw [htext, ofDictionary?_append_na] at hread
    have hsame : text = rest := na?_injective ha hread
    have hlength := congrArg String.length (htext.symm.trans hsame)
    rw [String.length_append] at hlength
    exact absurd (Nat.left_eq_add.1 hlength.symm) (by decide)
  · intro hbare
    rw [ofDictionary?_of_bare hbare, ha]

/-- No way to read texts as na-adjectives understands both spellings of all stems: おとな is one of
the stem おとな and one of the stem おと. -/
theorem not_reads_both_spellings (read : String → Except Error Adjective) :
    ¬ ∀ text, text ≠ "" → read text = na? text ∧ read (text ++ "な") = na? text := by
  intro hread
  have hbare : read "おとな" = na? "おとな" := (hread "おとな" (by decide)).1
  have hmarked : read ("おと" ++ "な") = na? "おと" := (hread "おと" (by decide)).2
  have hspelling : "おと" ++ "な" = "おとな" := by decide
  rw [hspelling, hbare] at hmarked
  have hstems : "おとな" = "おと" := na?_injective hmarked rfl
  exact absurd hstems (by decide)

/-- おとな is not read as the adjective with this stem. -/
theorem not_reads_otona :
    "おとな" ≠ "" ∧ ofDictionary? .naAdjective "おとな" = na? "おと" ∧
    ¬ ∃ adjective, na? "おとな" = .ok adjective ∧
      ofDictionary? .naAdjective "おとな" = .ok adjective ∧
      ofDictionary? .naAdjective ("おとな" ++ "な") = .ok adjective := by
  have hread : ofDictionary? .naAdjective ("おと" ++ "な") = na? "おと" := ofDictionary?_append_na "おと"
  have hspelling : "おと" ++ "な" = "おとな" := by decide
  rw [hspelling] at hread
  refine ⟨by decide, hread, ?_⟩
  rintro ⟨adjective, hna, hbare, -⟩
  rw [hread] at hbare
  exact absurd (na?_injective hna hbare) (by decide)

/-- **Na-adjectives with and without な.** Every text that is not empty is the stem of an adjective,
which is read from the text with な behind it, and from the text itself exactly if this does not end
in な; else the な at its end is not taken for a part of the stem. In every form the adjective is the
text with the suffix of the form. -/
theorem ofDictionary?_with_or_without_na {text : String} (hne : text ≠ "") :
    ∃ adjective, na? text = .ok adjective ∧
      ofDictionary? .naAdjective (text ++ "な") = .ok adjective ∧
      (ofDictionary? .naAdjective text = .ok adjective ↔ ∀ rest, text ≠ rest ++ "な") ∧
      (∀ rest, text = rest ++ "な" → ofDictionary? .naAdjective text = na? rest) ∧
      ∀ settings form, (Conjugator.ofSettings settings).Makes (.adjective adjective)
        (.adjective form) (text ++ naSuffix form) := by
  have ha : na? text = .ok (na ⟨text, hne⟩) := na?_text ⟨text, hne⟩
  refine ⟨na ⟨text, hne⟩, ha, ?_, ofDictionary?_eq_ok_iff_bare ha, ?_, ?_⟩
  · rw [ofDictionary?_append_na, ha]
  · intro rest htext
    rw [htext, ofDictionary?_append_na]
  · intro settings form
    exact Conjugator.makes_adjective_iff.2 rfl

/-- 静か and 静かな are read as the same adjective. -/
theorem ofDictionary?_with_or_without_na_of_shizuka :
    "静か" ≠ "" ∧
    ∃ adjective, ofDictionary? .naAdjective "静か" = .ok adjective ∧
      ofDictionary? .naAdjective "静かな" = .ok adjective := by
  have hne : "静か" ≠ "" := by decide
  obtain ⟨adjective, -, hmarked, hbare, -, -⟩ := ofDictionary?_with_or_without_na hne
  have hspelling : "静か" ++ "な" = "静かな" := by decide
  rw [hspelling] at hmarked
  refine ⟨hne, adjective, hbare.2 ?_, hmarked⟩
  intro rest h
  have hlast : ("静か" : String).toList.getLast? = some 'な' := by
    rw [h]
    exact getLast?_append_singleton rest 'な'
  exact absurd hlast (by decide)

end Adjective

end JapaneseInflection
