import JapaneseInflection.Lexicon.Word

/-!
# The grammar of dictionary forms

Which texts are dictionary forms of a class, which words they name, and how the others are refused.

* `Names` relates a class and a text to the word that they name: it writes a text for each word,
  and two for a na-adjective. `Word.ofDictionary?_eq_ok_iff` says that reading is exactly this
  relation.
* `WordClass.IsDictionaryForm` tells dictionary forms by their characters alone, and `refusedValue`
  and `refusedReason` are what a refusal says of another text.
* `Word.ofDictionary?_grammar` is the whole account: which texts are read, as what, and with which
  words the others are refused.
-/

namespace JapaneseInflection

/-! ### Texts by their last character -/

/-- A text has no character before its last one, or it is a stem and a last character. -/
theorem splitFinal_cases (text : String) :
    (text.length < 2 ∧ (splitFinal text).1 = "") ∨
    ∃ (stem : Stem) (c : Char), text = stem.text ++ String.ofList [c] ∧
      splitFinal text = (stem.text, String.ofList [c]) := by
  by_cases hstem : (splitFinal text).1 = ""
  · refine Or.inl ⟨?_, hstem⟩
    have hsplit := splitFinal_append text
    rw [hstem, String.empty_append, splitFinal] at hsplit
    rw [← hsplit, String.length_ofList]
    cases text.toList.getLast? with
    | none => exact Nat.zero_lt_succ 1
    | some c => exact Nat.one_lt_succ_succ 0
  · cases hlast : text.toList.getLast? with
    | none =>
      have hnil : text.toList = [] := List.getLast?_eq_none_iff.1 hlast
      exact absurd (by rw [splitFinal, hnil]; rfl) hstem
    | some c =>
      have hfinal : (splitFinal text).2 = String.ofList [c] := by
        rw [splitFinal, hlast]
        rfl
      refine Or.inr ⟨⟨(splitFinal text).1, hstem⟩, c, ?_, ?_⟩
      · rw [← hfinal, splitFinal_append]
      · rw [← hfinal]

theorem getLast?_append_singleton (text : String) (c : Char) :
    (text ++ String.ofList [c]).toList.getLast? = some c := by
  rw [String.toList_append, String.toList_ofList, List.getLast?_concat]

theorem Stem.two_le_length (stem : Stem) (c : Char) :
    2 ≤ (stem.text ++ String.ofList [c]).length := by
  have hl : stem.text.length ≠ 0 := mt String.length_eq_zero_iff.1 stem.text_ne
  rw [String.length_append, String.length_ofList, List.length_singleton]
  omega

theorem eq_append_of_getLast? {text : String} {c : Char}
    (hlast : text.toList.getLast? = some c) :
    text = String.ofList text.toList.dropLast ++ String.ofList [c] := by
  have hsplit := splitFinal_append text
  rw [splitFinal, hlast] at hsplit
  exact hsplit.symm

/-- A text ends in the given character, which is then dropped, or nothing is dropped. -/
theorem dropFinal_cases (c : Char) (text : String) :
    text = dropFinal c text ++ String.ofList [c] ∨
    (text = dropFinal c text ∧ ∀ rest, text ≠ rest ++ String.ofList [c]) := by
  by_cases hlast : text.toList.getLast? = some c
  · left
    rw [dropFinal, if_pos hlast]
    exact eq_append_of_getLast? hlast
  · right
    refine ⟨by rw [dropFinal, if_neg hlast], fun rest h => hlast ?_⟩
    rw [h, getLast?_append_singleton]

/-! ### The words that texts name -/

/-- The word that a text names in a class. A na-adjective is named with な behind its stem; a text
that does not end in な is a stem itself. -/
inductive Names : WordClass → String → Word → Prop
  | godan (stem : Stem) (ending : GodanEnding) :
      Names .godan (stem.text ++ ending.kana) (.verb (.godan stem ending))
  | ichidan (stem : Stem) : Names .ichidan (stem.text ++ "る") (.verb (.ichidan stem))
  | suru : Names .suru "する" (.verb .suru)
  | kuru : Names .kuru "来る" (.verb .kuru)
  | i (stem : Stem) (irregular : Bool) (marked : irregular = stem.isIrregular) :
      Names .iAdjective (stem.text ++ "い") (.adjective (.i stem irregular marked))
  | na (stem : Stem) : Names .naAdjective (stem.text ++ "な") (.adjective (.na stem))
  | bare (stem : Stem) (unmarked : ∀ rest, stem.text ≠ rest ++ "な") :
      Names .naAdjective stem.text (.adjective (.na stem))

/-! ### Reading a text -/

theorem GodanEnding.exists_kana_eq (ending : GodanEnding) :
    ∃ c, ending.kana = String.ofList [c] := by
  cases ending <;> exact ⟨_, rfl⟩

theorem Verb.godan?_text (stem : Stem) (ending : String) :
    Verb.godan? stem.text ending =
      match GodanEnding.ofText? ending with
      | some kana => .ok (.godan stem kana)
      | none => .error (.invalidLexeme (.word .godan) ending .notGodanEnding) := by
  rw [Verb.godan?, Stem.ofText?_text]
  rfl

theorem Verb.ichidan?_text (stem : Stem) (ending : String) :
    Verb.ichidan? stem.text ending =
      if ending = "る" then .ok (.ichidan stem)
      else .error (.invalidLexeme (.word .ichidan) ending .notIchidanEnding) := by
  rw [Verb.ichidan?, Stem.ofText?_text]
  rfl

theorem Adjective.i?_text (stem : Stem) (ending : String) :
    Adjective.i? stem.text ending =
      if ending = "い" then .ok (.i stem stem.isIrregular rfl)
      else .error (.invalidLexeme (.word .iAdjective) ending .notIAdjectiveEnding) := by
  rw [Adjective.i?, Stem.ofText?_text]
  rfl

theorem Adjective.na?_text (stem : Stem) : Adjective.na? stem.text = .ok (.na stem) := by
  rw [Adjective.na?, Stem.ofText?_text]
  rfl

/-- A text that a word names is read as that word. -/
theorem Names.ofDictionary?_eq {wordClass : WordClass} {text : String} {word : Word}
    (hn : Names wordClass text word) : Word.ofDictionary? wordClass text = .ok word := by
  cases hn with
  | godan stem ending =>
    obtain ⟨c, hc⟩ := ending.exists_kana_eq
    show (Verb.godan? (splitFinal _).1 (splitFinal _).2).map Word.verb = _
    rw [hc, splitFinal_append_singleton, Verb.godan?_text, ← hc,
      GodanEnding.ofText?_eq_some_iff.2 rfl]
    rfl
  | ichidan stem =>
    show (Verb.ichidan? (splitFinal (stem.text ++ String.ofList ['る'])).1 _).map Word.verb = _
    rw [splitFinal_append_singleton, Verb.ichidan?_text]
    rfl
  | suru => rfl
  | kuru => rfl
  | i stem irregular hirregular =>
    subst hirregular
    show (Adjective.i? (splitFinal (stem.text ++ String.ofList ['い'])).1 _).map Word.adjective = _
    rw [splitFinal_append_singleton, Adjective.i?_text]
    rfl
  | na stem =>
    show (Adjective.na? (dropFinal 'な' (stem.text ++ String.ofList ['な']))).map Word.adjective = _
    rw [dropFinal_append_singleton, Adjective.na?_text]
    rfl
  | bare stem hbare =>
    obtain h | ⟨h, -⟩ := dropFinal_cases 'な' stem.text
    · exact absurd h (hbare _)
    · show (Adjective.na? (dropFinal 'な' stem.text)).map Word.adjective = _
      rw [← h, Adjective.na?_text]
      rfl

/-! ### Dictionary forms by their characters -/

/-- A text of at least two characters, the last of which is one of the given ones. -/
def EndsIn (finals : List Char) (text : String) : Prop :=
  2 ≤ text.length ∧ ∃ c ∈ finals, text.toList.getLast? = some c

theorem not_endsIn_of_short (finals : List Char) {text : String} (hl : text.length < 2) :
    ¬ EndsIn finals text := by
  intro h
  have hlong := h.1
  omega

theorem endsIn_append_singleton_iff (finals : List Char) (stem : Stem) (c : Char) :
    EndsIn finals (stem.text ++ String.ofList [c]) ↔ c ∈ finals := by
  constructor
  · intro h
    obtain ⟨-, d, hd, hlast⟩ := h
    rw [getLast?_append_singleton] at hlast
    exact Option.some.inj hlast ▸ hd
  · intro hc
    exact ⟨stem.two_le_length c, c, hc, getLast?_append_singleton stem.text c⟩

/-- The last characters of the dictionary forms of godan verbs. -/
def godanFinals : List Char :=
  ['う', 'く', 'ぐ', 'す', 'つ', 'ぬ', 'ぶ', 'む', 'る']

theorem mem_godanFinals_iff (c : Char) :
    c ∈ godanFinals ↔ ∃ ending, GodanEnding.ofChar? c = some ending := by
  constructor
  · intro hc
    simp only [godanFinals, List.mem_cons, List.not_mem_nil, or_false] at hc
    rcases hc with rfl | rfl | rfl | rfl | rfl | rfl | rfl | rfl | rfl <;> exact ⟨_, rfl⟩
  · intro hread
    obtain ⟨ending, h⟩ := hread
    have hkana := congrArg String.toList (GodanEnding.ofChar?_eq_some_iff.1 h)
    rw [String.toList_ofList] at hkana
    cases ending <;> cases hkana <;> decide

/-- The texts that are dictionary forms of a class. -/
def WordClass.IsDictionaryForm : WordClass → String → Prop
  | .godan, text => EndsIn godanFinals text
  | .ichidan, text => EndsIn ['る'] text
  | .suru, text => text = "する"
  | .kuru, text => text = "来る"
  | .iAdjective, text => EndsIn ['い'] text
  | .naAdjective, text => text ≠ "" ∧ text ≠ "な"

/-- The stem that a dictionary form of a class has. The irregular verbs have none. -/
def WordClass.stemOf? : WordClass → String → Option String
  | .godan, text | .ichidan, text | .iAdjective, text => some (String.ofList text.toList.dropLast)
  | .naAdjective, text =>
    if text.toList.getLast? = some 'な' then some (String.ofList text.toList.dropLast)
    else some text
  | .suru, _ | .kuru, _ => none

/-- The class that a refusal names. A text that no irregular verb has is blamed on する. -/
def blamedClass (wordClass : WordClass) (text : String) : WordClass :=
  if wordClass = .kuru ∧ text ≠ "する" then .suru else wordClass

/-- The part of a text that a refusal quotes: nothing where there is no stem, else the last
character, but the whole of a text that is no irregular verb. -/
def refusedValue : WordClass → String → String
  | .godan, text | .ichidan, text | .iAdjective, text =>
    if text.length < 2 then "" else String.ofList text.toList.getLast?.toList
  | .naAdjective, _ => ""
  | .suru, text | .kuru, text => text

/-- The reason that a refusal gives. -/
def refusedReason : WordClass → String → String
  | .godan, text =>
    if text.length < 2 then "stem must not be empty"
    else "ending must be one of う, く, ぐ, す, つ, ぬ, ぶ, む, る"
  | .ichidan, text =>
    if text.length < 2 then "stem must not be empty" else "ending must be る"
  | .iAdjective, text =>
    if text.length < 2 then "stem must not be empty" else "ending must be い"
  | .naAdjective, _ => "stem must not be empty"
  | .suru, text | .kuru, text =>
    if text = "する" ∨ text = "来る" then "dictionary form belongs to another irregular verb"
    else "only する and 来る are irregular"

/-- Reading a text in a class fails as the refusal says. -/
def Refuses (wordClass : WordClass) (text : String) : Prop :=
  ∃ complaint : Complaint,
    Word.ofDictionary? wordClass text =
      .error (.invalidLexeme (.word (blamedClass wordClass text)) (refusedValue wordClass text)
        complaint) ∧
    complaint.text = refusedReason wordClass text

/-- The classes whose dictionary forms are told by their last character. -/
def WordClass.HasEnding (wordClass : WordClass) : Prop :=
  wordClass = .godan ∨ wordClass = .ichidan ∨ wordClass = .iAdjective

theorem WordClass.HasEnding.blamedClass_eq {wordClass : WordClass} (hw : wordClass.HasEnding)
    (text : String) : blamedClass wordClass text = wordClass := by
  refine if_neg fun h => ?_
  rw [h.1] at hw
  rcases hw with h | h | h <;> cases h

/-- A class with endings refuses a text that is too short before it looks at the ending. -/
theorem refuses_of_short {wordClass : WordClass} {text : String} (hw : wordClass.HasEnding)
    (hl : text.length < 2) (hs : (splitFinal text).1 = "") : Refuses wordClass text := by
  have hvalue : refusedValue wordClass text = "" := by
    rcases hw with rfl | rfl | rfl <;> exact if_pos hl
  have hreason : refusedReason wordClass text = Complaint.emptyStem.text := by
    rcases hw with rfl | rfl | rfl <;> exact if_pos hl
  refine ⟨.emptyStem, ?_, hreason.symm⟩
  rw [hvalue, hw.blamedClass_eq]
  -- each of the three constructors looks at the stem first
  rcases hw with rfl | rfl | rfl
  · show (Verb.godan? (splitFinal text).1 _).map Word.verb = _
    rw [hs]
    rfl
  · show (Verb.ichidan? (splitFinal text).1 _).map Word.verb = _
    rw [hs]
    rfl
  · show (Adjective.i? (splitFinal text).1 _).map Word.adjective = _
    rw [hs]
    rfl

/-- A refused ending is quoted as it stands. -/
theorem refusedValue_append_singleton {wordClass : WordClass} (hw : wordClass.HasEnding)
    (stem : Stem) (c : Char) :
    refusedValue wordClass (stem.text ++ String.ofList [c]) = String.ofList [c] := by
  have hl : ¬ (stem.text ++ String.ofList [c]).length < 2 :=
    Nat.not_lt_of_le (stem.two_le_length c)
  rcases hw with rfl | rfl | rfl <;>
    rw [refusedValue, if_neg hl, getLast?_append_singleton] <;> rfl

/-- A text that no irregular verb has is refused by both classes of irregular verbs. -/
theorem refuses_of_not_irregular {wordClass : WordClass} {text : String}
    (hw : wordClass = .suru ∨ wordClass = .kuru) (hs : text ≠ "する") (hk : text ≠ "来る") :
    Refuses wordClass text := by
  have hnone : Verb.irregular? text =
      .error (.invalidLexeme (.word .suru) text .notIrregular) := by
    rw [Verb.irregular?, if_neg hs, if_neg hk]
  refine ⟨.notIrregular, ?_, ?_⟩
  · rcases hw with rfl | rfl
    · show (do let verb ← Verb.irregular? text; _).map Word.verb = _
      rw [hnone]
      rfl
    · show (do let verb ← Verb.irregular? text; _).map Word.verb = _
      rw [hnone, blamedClass, if_pos ⟨rfl, hs⟩]
      rfl
  · rcases hw with rfl | rfl <;> rw [refusedReason, if_neg (by simp [hs, hk])] <;> rfl

/-! ### A text is read or refused -/

/-- A text is a dictionary form of a class and names a word, or it is none and is refused. -/
def ReadOrRefused (wordClass : WordClass) (text : String) : Prop :=
  (wordClass.IsDictionaryForm text ∧ ∃ word, Names wordClass text word) ∨
  (¬ wordClass.IsDictionaryForm text ∧ Refuses wordClass text)

/-- A class with endings reads or refuses every text if it does so for a stem and a last
character: its grammar is the list of its endings. -/
theorem readOrRefused_of_endings {wordClass : WordClass} {finals : List Char}
    (complaint : Complaint) (hw : wordClass.HasEnding)
    (hform : wordClass.IsDictionaryForm = EndsIn finals)
    (hreason : ∀ text, refusedReason wordClass text =
      if text.length < 2 then Complaint.emptyStem.text else complaint.text)
    (hread : ∀ (stem : Stem) (c : Char), c ∈ finals →
      ∃ word, Names wordClass (stem.text ++ String.ofList [c]) word)
    (hrefuse : ∀ (stem : Stem) (c : Char), c ∉ finals →
      Word.ofDictionary? wordClass (stem.text ++ String.ofList [c]) =
        .error (.invalidLexeme (.word wordClass) (String.ofList [c]) complaint))
    (text : String) : ReadOrRefused wordClass text := by
  rw [ReadOrRefused, hform]
  obtain ⟨hl, hs⟩ | ⟨stem, c, rfl, -⟩ := splitFinal_cases text
  · exact Or.inr ⟨not_endsIn_of_short finals hl, refuses_of_short hw hl hs⟩
  · have hiff := endsIn_append_singleton_iff finals stem c
    by_cases hc : c ∈ finals
    · exact Or.inl ⟨hiff.2 hc, hread stem c hc⟩
    · refine Or.inr ⟨mt hiff.1 hc, complaint, ?_, ?_⟩
      · rw [hrefuse stem c hc, hw.blamedClass_eq, refusedValue_append_singleton hw stem c]
      · rw [hreason, if_neg (Nat.not_lt_of_le (stem.two_le_length c))]

theorem readOrRefused_godan (text : String) : ReadOrRefused .godan text := by
  refine readOrRefused_of_endings .notGodanEnding (Or.inl rfl) rfl (fun _ => rfl) ?_ ?_ text
  · intro stem c hc
    obtain ⟨ending, hending⟩ := (mem_godanFinals_iff c).1 hc
    rw [← GodanEnding.ofChar?_eq_some_iff.1 hending]
    exact ⟨_, Names.godan stem ending⟩
  · intro stem c hc
    have hnone : GodanEnding.ofText? (String.ofList [c]) = none := by
      rw [GodanEnding.ofText?, String.toList_ofList]
      exact Option.eq_none_iff_forall_ne_some.2 fun ending h =>
        hc ((mem_godanFinals_iff c).2 ⟨ending, h⟩)
    show (Verb.godan? (splitFinal _).1 (splitFinal _).2).map Word.verb = _
    rw [splitFinal_append_singleton, Verb.godan?_text, hnone]
    rfl

/-- A single character other than the given one is another text. -/
theorem ofList_singleton_ne {c d : Char} (hc : c ∉ [d]) : String.ofList [c] ≠ String.ofList [d] :=
  fun h => hc (List.mem_singleton.2 (List.singleton_inj.1 (String.ofList_injective h)))

theorem readOrRefused_ichidan (text : String) : ReadOrRefused .ichidan text := by
  refine readOrRefused_of_endings .notIchidanEnding (Or.inr (Or.inl rfl)) rfl (fun _ => rfl)
    ?_ ?_ text
  · intro stem c hc
    obtain rfl := List.mem_singleton.1 hc
    exact ⟨_, Names.ichidan stem⟩
  · intro stem c hc
    have hne : String.ofList [c] ≠ "る" := ofList_singleton_ne hc
    show (Verb.ichidan? (splitFinal _).1 (splitFinal _).2).map Word.verb = _
    rw [splitFinal_append_singleton, Verb.ichidan?_text, if_neg hne]
    rfl

theorem readOrRefused_iAdjective (text : String) : ReadOrRefused .iAdjective text := by
  refine readOrRefused_of_endings .notIAdjectiveEnding (Or.inr (Or.inr rfl)) rfl (fun _ => rfl)
    ?_ ?_ text
  · intro stem c hc
    obtain rfl := List.mem_singleton.1 hc
    exact ⟨_, Names.i stem _ rfl⟩
  · intro stem c hc
    have hne : String.ofList [c] ≠ "い" := ofList_singleton_ne hc
    show (Adjective.i? (splitFinal _).1 (splitFinal _).2).map Word.adjective = _
    rw [splitFinal_append_singleton, Adjective.i?_text, if_neg hne]
    rfl

theorem readOrRefused_naAdjective (text : String) : ReadOrRefused .naAdjective text := by
  by_cases hs : dropFinal 'な' text = ""
  · have hrefuses : Refuses .naAdjective text := by
      refine ⟨.emptyStem, ?_, rfl⟩
      show (Adjective.na? (dropFinal 'な' text)).map Word.adjective = _
      rw [hs]
      rfl
    refine Or.inr ⟨?_, hrefuses⟩
    intro hform
    obtain h | ⟨h, -⟩ := dropFinal_cases 'な' text
    · rw [hs, String.empty_append] at h
      exact hform.2 h
    · exact hform.1 (h.trans hs)
  · obtain h | ⟨h, hbare⟩ := dropFinal_cases 'な' text
    · obtain ⟨stem, hstem⟩ : ∃ stem : Stem, stem.text = dropFinal 'な' text := ⟨⟨_, hs⟩, rfl⟩
      have hl := stem.two_le_length 'な'
      rw [hstem, ← h] at hl
      rw [← hstem] at h
      refine Or.inl ⟨⟨?_, ?_⟩, _, h ▸ Names.na stem⟩
      · intro hempty
        rw [hempty] at hl
        exact absurd hl (by decide)
      · intro hna
        rw [hna] at hl
        exact absurd hl (by decide)
    · rw [← h] at hs
      refine Or.inl ⟨⟨hs, fun hna => hbare "" ?_⟩, _, Names.bare ⟨text, hs⟩ hbare⟩
      rw [hna]
      rfl

theorem readOrRefused_suru (text : String) : ReadOrRefused .suru text := by
  by_cases hs : text = "する"
  · subst hs
    exact Or.inl ⟨rfl, _, Names.suru⟩
  · refine Or.inr ⟨hs, ?_⟩
    by_cases hk : text = "来る"
    · subst hk
      exact ⟨.otherIrregular, rfl, rfl⟩
    · exact refuses_of_not_irregular (Or.inl rfl) hs hk

theorem readOrRefused_kuru (text : String) : ReadOrRefused .kuru text := by
  by_cases hk : text = "来る"
  · subst hk
    exact Or.inl ⟨rfl, _, Names.kuru⟩
  · refine Or.inr ⟨hk, ?_⟩
    by_cases hs : text = "する"
    · subst hs
      exact ⟨.otherIrregular, rfl, rfl⟩
    · exact refuses_of_not_irregular (Or.inr rfl) hs hk

theorem readOrRefused (wordClass : WordClass) (text : String) :
    ReadOrRefused wordClass text := by
  cases wordClass with
  | godan => exact readOrRefused_godan text
  | ichidan => exact readOrRefused_ichidan text
  | suru => exact readOrRefused_suru text
  | kuru => exact readOrRefused_kuru text
  | iAdjective => exact readOrRefused_iAdjective text
  | naAdjective => exact readOrRefused_naAdjective text

/-- Reading is the relation of a text to the word that it names. -/
theorem Word.ofDictionary?_eq_ok_iff {wordClass : WordClass} {text : String} {word : Word} :
    Word.ofDictionary? wordClass text = .ok word ↔ Names wordClass text word := by
  refine ⟨fun h => ?_, Names.ofDictionary?_eq⟩
  obtain ⟨-, other, hn⟩ | ⟨-, complaint, hrefused, -⟩ := readOrRefused wordClass text
  · obtain rfl : other = word := Except.ok.inj (hn.ofDictionary?_eq.symm.trans h)
    exact hn
  · rw [hrefused] at h
    cases h

/-! ### The words that are read -/

/-- The stem of a word, which the irregular verbs do not have. -/
def Word.stem? : Word → Option Stem
  | .verb v => v.stem?
  | .adjective a => some a.stem

theorem Names.wordClass_eq {wordClass : WordClass} {text : String} {word : Word}
    (hn : Names wordClass text word) : word.wordClass = wordClass := by
  cases hn <;> rfl

theorem ofList_dropLast_append_singleton (text : String) (c : Char) :
    String.ofList (text ++ String.ofList [c]).toList.dropLast = text := by
  rw [String.toList_append, String.toList_ofList, List.dropLast_concat, String.ofList_toList]

/-- A word is read with the stem that its dictionary form has. -/
theorem Names.stem?_eq {wordClass : WordClass} {text : String} {word : Word}
    (hn : Names wordClass text word) :
    word.stem?.map Stem.text = wordClass.stemOf? text := by
  cases hn with
  | godan stem ending =>
    obtain ⟨c, hc⟩ := ending.exists_kana_eq
    rw [hc]
    exact congrArg some (ofList_dropLast_append_singleton stem.text c).symm
  | ichidan stem => exact congrArg some (ofList_dropLast_append_singleton stem.text 'る').symm
  | suru => rfl
  | kuru => rfl
  | i stem irregular hirregular =>
    exact congrArg some (ofList_dropLast_append_singleton stem.text 'い').symm
  | na stem =>
    have hlast := getLast?_append_singleton stem.text 'な'
    show some stem.text = if (stem.text ++ String.ofList ['な']).toList.getLast? = some 'な' then _
      else _
    rw [if_pos hlast]
    exact congrArg some (ofList_dropLast_append_singleton stem.text 'な').symm
  | bare stem hbare =>
    have hlast : stem.text.toList.getLast? ≠ some 'な' := fun h =>
      hbare _ (eq_append_of_getLast? h)
    show some stem.text = if stem.text.toList.getLast? = some 'な' then _ else _
    rw [if_neg hlast]

/-- Exactly the i-adjectives with the stems い and よ are irregular. -/
theorem Adjective.isIrregular_iff (adjective : Adjective) :
    adjective.isIrregular = true ↔ adjective.wordClass = .iAdjective ∧
      (adjective.stem.text = "い" ∨ adjective.stem.text = "よ") := by
  cases adjective with
  | i stem irregular hirregular =>
    subst hirregular
    simp [isIrregular, wordClass, Adjective.stem, Stem.isIrregular]
  | na stem => simp [isIrregular, wordClass]

/-- **The grammar of dictionary forms.** A text is read in a class exactly when it is a dictionary
form of the class; the word that is read is of the class, has the stem of the text and is
irregular as its stem says; and a text that is not read is refused with its value and reason. -/
theorem Word.ofDictionary?_grammar (wordClass : WordClass) (text : String) :
    ((∃ word, Word.ofDictionary? wordClass text = .ok word) ↔
      wordClass.IsDictionaryForm text) ∧
    (∀ word, Word.ofDictionary? wordClass text = .ok word →
      word.wordClass = wordClass ∧ word.stem?.map Stem.text = wordClass.stemOf? text ∧
      ∀ adjective, word = .adjective adjective →
        (adjective.isIrregular = true ↔ wordClass = .iAdjective ∧
          (adjective.stem.text = "い" ∨ adjective.stem.text = "よ"))) ∧
    (∀ cause, Word.ofDictionary? wordClass text = .error cause →
      ∃ kind complaint,
        cause = .invalidLexeme kind (refusedValue wordClass text) complaint ∧
        complaint.text = refusedReason wordClass text) := by
  refine ⟨?_, fun word h => ?_, fun cause h => ?_⟩
  · obtain ⟨hform, word, hn⟩ | ⟨hform, complaint, hrefused, -⟩ := readOrRefused wordClass text
    · exact ⟨fun _ => hform, fun _ => ⟨word, hn.ofDictionary?_eq⟩⟩
    · refine ⟨?_, fun h => absurd h hform⟩
      intro hread
      obtain ⟨word, h⟩ := hread
      rw [hrefused] at h
      cases h
  · have hn := Word.ofDictionary?_eq_ok_iff.1 h
    refine ⟨hn.wordClass_eq, hn.stem?_eq, ?_⟩
    intro adjective hadjective
    subst hadjective
    rw [← hn.wordClass_eq]
    exact adjective.isIrregular_iff
  · obtain ⟨-, word, hn⟩ | ⟨-, complaint, hrefused, hreason⟩ := readOrRefused wordClass text
    · rw [hn.ofDictionary?_eq] at h
      cases h
    · rw [hrefused] at h
      exact ⟨_, complaint, (Except.error.inj h).symm, hreason⟩

end JapaneseInflection
