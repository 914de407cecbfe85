/-!
# Godan endings

The dictionary form of a godan verb ends in one of nine kana, all of the u column. The ending
names a row of the kana table, from which the other forms take their first kana.

* `GodanEnding.kana` writes an ending, and `GodanEnding.ofChar?` and `GodanEnding.ofText?` read
  one; `ofText?_eq_some_iff` says that the two tables agree.
-/

namespace JapaneseInflection

/-- The endings of godan verbs, named by their reading. -/
inductive GodanEnding where
  | u
  | ku
  | gu
  | su
  | tsu
  | nu
  | bu
  | mu
  | ru
  deriving DecidableEq, Hashable, Ord

namespace GodanEnding

/-- All endings, in order of declaration. -/
def all : List GodanEnding :=
  [u, ku, gu, su, tsu, nu, bu, mu, ru]

/-- The kana of an ending. -/
def kana : GodanEnding → String
  | u => "う"
  | ku => "く"
  | gu => "ぐ"
  | su => "す"
  | tsu => "つ"
  | nu => "ぬ"
  | bu => "ぶ"
  | mu => "む"
  | ru => "る"

/-- The reading of an ending, capitalised. -/
def name : GodanEnding → String
  | u => "U"
  | ku => "Ku"
  | gu => "Gu"
  | su => "Su"
  | tsu => "Tsu"
  | nu => "Nu"
  | bu => "Bu"
  | mu => "Mu"
  | ru => "Ru"

/-- The ending written with the given character. -/
def ofChar? : Char → Option GodanEnding
  | 'う' => some u
  | 'く' => some ku
  | 'ぐ' => some gu
  | 'す' => some su
  | 'つ' => some tsu
  | 'ぬ' => some nu
  | 'ぶ' => some bu
  | 'む' => some mu
  | 'る' => some ru
  | _ => none

/-- The ending written with the given text, which must be a single character. -/
def ofText? (text : String) : Option GodanEnding :=
  match text.toList with
  | [c] => ofChar? c
  | _ => none

/-- The position of an ending in the order of declaration. -/
def index (ending : GodanEnding) : Nat :=
  all.idxOf ending

theorem mem_all (ending : GodanEnding) : ending ∈ all := by
  cases ending <;> decide

/-- The table that reads an ending agrees with the one that writes it: an ending is recognised by
its own kana and by no other character. -/
theorem ofChar?_eq_some_iff {c : Char} {ending : GodanEnding} :
    ofChar? c = some ending ↔ ending.kana = String.ofList [c] := by
  constructor
  · intro h
    unfold ofChar? at h
    split at h <;> cases h <;> rfl
  · intro h
    have hc : ending.kana.toList = [c] := by rw [h, String.toList_ofList]
    cases ending <;> cases hc <;> rfl

/-- An ending is read from its own kana only. -/
theorem ofText?_eq_some_iff {text : String} {ending : GodanEnding} :
    ofText? text = some ending ↔ text = ending.kana := by
  constructor
  · intro h
    unfold ofText? at h
    split at h
    · rename_i c hc
      rw [ofChar?_eq_some_iff.1 h, ← hc, String.ofList_toList]
    · cases h
  · rintro rfl
    cases ending <;> decide

end GodanEnding

end JapaneseInflection
