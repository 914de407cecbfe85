import JapaneseInflection.Toml.Document

/-!
# Keys of documents

Whatever a statement says, and however deep the table is that it changes, it sets one key of the
document, in its old place if it has one. So the table that a document spells has each key once.

* `Entries.SetsKey` is what all changes of entries have in common.
* `Document.distinctKeys_of_apply` is the step, for each statement, and
  `Document.distinctKeys_of_ofStatements?` the run over all statements.
* `nodup_keys_of_parse?` says it of the table that is read.
-/

namespace JapaneseInflection.Toml

namespace Entries

/-- The keys of entries, in order. -/
def keys (entries : Entries) : List String :=
  entries.map Prod.fst

/-- No key stands twice. -/
def DistinctKeys (entries : Entries) : Prop :=
  entries.keys.Nodup

theorem distinctKeys_nil : DistinctKeys [] := List.nodup_nil

/-- A key that is set keeps its place, or comes last if it is new. -/
theorem keys_set (key : String) (item : Item) (entries : Entries) :
    (entries.set key item).keys =
      if key ∈ entries.keys then entries.keys else entries.keys ++ [key] := by
  induction entries with
  | nil => simp [keys, set]
  | cons entry rest ih =>
    obtain ⟨other, old⟩ := entry
    by_cases hk : other = key
    · subst hk
      simp [keys, set]
    · have hstep : (set key item ((other, old) :: rest)).keys =
          other :: (set key item rest).keys := by
        simp [keys, set, hk]
      have hmem : key ∈ keys ((other, old) :: rest) ↔ key ∈ keys rest := by
        simp [keys, Ne.symm hk]
      rw [hstep, ih]
      simp only [hmem]
      split <;> rfl

theorem DistinctKeys.set {entries : Entries} (hd : entries.DistinctKeys) (key : String)
    (item : Item) : (entries.set key item).DistinctKeys := by
  rw [DistinctKeys, keys_set]
  by_cases hk : key ∈ entries.keys
  · rw [if_pos hk]
    exact hd
  · rw [if_neg hk, List.nodup_append]
    refine ⟨hd, by simp, ?_⟩
    rintro other hother _ hkey rfl
    exact hk (List.mem_singleton.1 hkey ▸ hother)

/-- A change sets one key, whatever entries it is applied to. -/
def SetsKey (change : Origin → Entries → Option Entries) : Prop :=
  ∀ origin entries after, change origin entries = some after →
    ∃ key item, after = entries.set key item

/-- Where a path leads to a table below, the change there sets the first key of the path here. -/
theorem SetsKey.changeAt {change : Origin → Entries → Option Entries} (hc : SetsKey change)
    (dotted : Bool) (path : List String) : SetsKey (changeAt dotted change path) := by
  intro origin entries after h
  cases path with
  | nil => exact hc origin entries after h
  | cons key path =>
    rw [Entries.changeAt] at h
    split at h
    · obtain ⟨inner, -, hset⟩ := Option.bind_eq_some_iff.1 h
      exact ⟨key, _, (Option.some.inj hset).symm⟩
    · cases h
    · split at h
      · cases h
      · obtain ⟨inner, -, hset⟩ := Option.bind_eq_some_iff.1 h
        exact ⟨key, _, (Option.some.inj hset).symm⟩
    · obtain ⟨last, -, hrest⟩ := Option.bind_eq_some_iff.1 h
      obtain ⟨inner, -, hset⟩ := Option.bind_eq_some_iff.1 hrest
      exact ⟨key, _, (Option.some.inj hset).symm⟩

theorem setsKey_assign (path : List String) (key : String) (datum : Datum) :
    SetsKey fun _ => assign path key datum := by
  refine fun _ => SetsKey.changeAt (fun origin entries after h => ?_) true path .header
  split at h
  · cases h
  · exact ⟨key, _, (Option.some.inj h).symm⟩

theorem setsKey_openTable (path : List String) (key : String) :
    SetsKey fun _ => openTable path key := by
  refine fun _ => SetsKey.changeAt (fun origin entries after h => ?_) false path .header
  split at h
  · exact ⟨key, _, (Option.some.inj h).symm⟩
  · exact ⟨key, _, (Option.some.inj h).symm⟩
  · cases h

theorem setsKey_openElement (path : List String) (key : String) :
    SetsKey fun _ => openElement path key := by
  refine fun _ => SetsKey.changeAt (fun origin entries after h => ?_) false path .header
  split at h
  · exact ⟨key, _, (Option.some.inj h).symm⟩
  · exact ⟨key, _, (Option.some.inj h).symm⟩
  · cases h

end Entries

/-! ### Statements -/

namespace Document

open Entries

/-- A statement sets one key of the document. -/
theorem exists_set_of_apply {document after : Document} {statement : Statement}
    (h : document.apply statement = some after) :
    ∃ key item, after.entries = document.entries.set key item := by
  cases statement with
  | assignment key datum =>
    obtain ⟨entries, hentries, hafter⟩ := Option.bind_eq_some_iff.1 h
    obtain rfl := Option.some.inj hafter
    exact (setsKey_assign key.path key.last datum).changeAt false document.place .header
      document.entries entries hentries
  | tableHeader key =>
    obtain ⟨entries, hentries, hafter⟩ := Option.bind_eq_some_iff.1 h
    obtain rfl := Option.some.inj hafter
    exact setsKey_openTable key.path key.last .header document.entries entries hentries
  | elementHeader key =>
    obtain ⟨entries, hentries, hafter⟩ := Option.bind_eq_some_iff.1 h
    obtain rfl := Option.some.inj hafter
    exact setsKey_openElement key.path key.last .header document.entries entries hentries

/-- A statement keeps the keys of a document distinct. -/
theorem distinctKeys_of_apply {document after : Document} {statement : Statement}
    (hd : document.entries.DistinctKeys) (h : document.apply statement = some after) :
    after.entries.DistinctKeys := by
  obtain ⟨key, item, hset⟩ := exists_set_of_apply h
  rw [hset]
  exact hd.set key item

/-- Statements done one after the other keep the keys of a document distinct. -/
theorem distinctKeys_of_ofStatements? {statements : List Statement} {document : Document}
    (h : ofStatements? statements = some document) : document.entries.DistinctKeys := by
  have hrun : ∀ start : Document, start.entries.DistinctKeys →
      statements.foldlM apply start = some document → document.entries.DistinctKeys := by
    clear h
    induction statements with
    | nil =>
      intro start hd h
      obtain rfl := Option.some.inj h
      exact hd
    | cons statement statements ih =>
      intro start hd h
      rw [List.foldlM_cons] at h
      obtain ⟨next, hnext, hrest⟩ := Option.bind_eq_some_iff.1 h
      exact ih next (distinctKeys_of_apply hd hnext) hrest
  exact hrun {} distinctKeys_nil h

end Document

/-! ### Tables that are read -/

theorem map_fst_toEntries (entries : Entries) :
    (Item.toEntries entries).map Prod.fst = entries.keys := by
  induction entries with
  | nil => rfl
  | cons entry rest ih =>
    rw [Item.toEntries, List.map_cons, ih]
    rfl

/-- The table that a document spells has each of its keys once. -/
theorem nodup_keys_of_parse? {text : String} {entries : List (String × Datum)}
    (h : parse? text = some entries) : (entries.map Prod.fst).Nodup := by
  obtain ⟨found, -, hdocument⟩ := Option.bind_eq_some_iff.1 h
  obtain ⟨document, hbuilt, hentries⟩ := Option.bind_eq_some_iff.1 hdocument
  obtain rfl := Option.some.inj hentries
  rw [map_fst_toEntries]
  exact Document.distinctKeys_of_ofStatements? hbuilt

end JapaneseInflection.Toml
