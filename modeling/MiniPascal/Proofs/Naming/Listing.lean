import Mathlib.Data.List.Sort
import MiniPascal.Proofs.Naming.Table

set_option autoImplicit false

namespace MiniPascal

section Listing

variable {β : Type} {name : β → String}

def sortedByName (name : β → String) (items : List β) : List β :=
  items.mergeSort fun a b => name a ≤ name b

/-- All items that can be found under a name, each once, in any order. -/
structure Listing (name : β → String) (find : String → Option β) (items : List β) : Prop where
  distinct : (items.map name).Nodup
  complete : ∀ item, item ∈ items ↔ find (name item) = some item

variable {find : String → Option β} {items items' : List β}

theorem ordered_sortedByName (distinct : (items.map name).Nodup) :
    (sortedByName name items).Pairwise (fun a b => name a < name b) := by
  have sorted : (sortedByName name items).Pairwise (fun a b => decide (name a ≤ name b)) := by
    apply List.pairwise_mergeSort
    · intro a b c
      simpa using String.le_trans
    · intro a b
      simpa using String.le_total (name a) (name b)
  have names : ((sortedByName name items).map name).Nodup :=
    (((items.mergeSort_perm _).map name).nodup_iff).2 distinct
  refine sorted.imp₂ (fun a b below differ => ?_) (List.pairwise_map.1 names)
  exact Std.lt_of_le_of_ne (of_decide_eq_true below) differ

namespace Listing

theorem perm (listing : Listing name find items) (listing' : Listing name find items') :
    items.Perm items' := by
  apply (List.perm_ext_iff_of_nodup listing.distinct.of_map listing'.distinct.of_map).2
  intro item
  rw [listing.complete, listing'.complete]

theorem eq_of_ordered (listing : Listing name find items) (listing' : Listing name find items')
    (ordered : items.Pairwise (fun a b => name a < name b))
    (ordered' : items'.Pairwise (fun a b => name a < name b)) : items = items' := by
  refine (listing.perm listing').eq_of_pairwise (fun a b _ _ below above => ?_) ordered ordered'
  exact absurd (String.lt_trans below above) (String.lt_irrefl _)

theorem sorted (listing : Listing name find items) : Listing name find (sortedByName name items) where
  distinct := (((items.mergeSort_perm _).map name).nodup_iff).2 listing.distinct
  complete item := by rw [sortedByName, List.mem_mergeSort, listing.complete]

theorem sortedByName_eq (listing : Listing name find items) (listing' : Listing name find items')
    (ordered' : items'.Pairwise (fun a b => name a < name b)) : sortedByName name items = items' :=
  listing.sorted.eq_of_ordered listing' (ordered_sortedByName listing.distinct) ordered'

end Listing

end Listing

namespace NameMap

variable {α : Type} (map : NameMap α)

def entry? (name : String) : Option (String × α) :=
  (map.lookup name).map (Prod.mk name)

theorem mem_entries_iff {name : String} {value : α} :
    (name, value) ∈ map.entries ↔ map.lookup name = some value := by
  obtain ⟨entries, ordered⟩ := map
  change _ ↔ lookupEntry name entries = some value
  induction entries with
  | nil => simp [lookupEntry]
  | cons first rest ih =>
    obtain ⟨least, tail⟩ := List.pairwise_cons.1 ordered
    obtain ⟨firstName, firstValue⟩ := first
    rw [lookupEntry, List.mem_cons, ih tail]
    by_cases here : name = firstName
    next =>
      subst here
      simp [lookupEntry_eq_none least, eq_comm]
    next => simp [here]

theorem eq_of_entries {map map' : NameMap α} (same : map.entries = map'.entries) : map = map' := by
  cases map
  cases map'
  congr

theorem listing_entries : Listing Prod.fst map.entry? map.entries where
  distinct := map.nodup_names
  complete entry := by
    rw [mem_entries_iff, entry?, Option.map_eq_some_iff]
    constructor
    · intro found
      exact ⟨entry.2, found, rfl⟩
    · rintro ⟨value, found, same⟩
      rw [found, ← same]

end NameMap

namespace SymbolTable

variable (table : SymbolTable)

theorem entries_eq : table.symbols.entries = table.sorted.map fun s => (s.name, s) := by
  have each : ∀ entry ∈ table.symbols.entries, entry = (entry.2.name, entry.2) := by
    intro entry mem
    rw [table.keyed entry mem]
  rw [sorted, List.map_map]
  exact (List.map_id _).symm.trans (List.map_congr_left each)

theorem names_sorted : table.sorted.map Symbol.name = table.names := by
  rw [names, NameMap.names, entries_eq, List.map_map]
  rfl

theorem ordered_sorted : table.sorted.Pairwise (fun a b => a.name < b.name) := by
  have ordered := table.symbols.ordered
  rwa [entries_eq, List.pairwise_map] at ordered

theorem listing_sorted : Listing Symbol.name table.lookup table.sorted where
  distinct := table.names_sorted ▸ table.symbols.nodup_names
  complete s := by
    have stored : s ∈ table.sorted ↔ (s.name, s) ∈ table.symbols.entries := by
      rw [entries_eq, List.mem_map]
      constructor
      · intro mem
        exact ⟨s, mem, rfl⟩
      · rintro ⟨other, mem, same⟩
        exact (Prod.mk.inj same).2 ▸ mem
    rw [stored, NameMap.mem_entries_iff]
    rfl

theorem eq_of_symbols {table table' : SymbolTable} (same : table.symbols = table'.symbols) :
    table = table' := by
  cases table
  cases table'
  congr

theorem eq_of_sorted {table table' : SymbolTable} (same : table.sorted = table'.sorted) :
    table = table' := by
  apply eq_of_symbols
  apply NameMap.eq_of_entries
  rw [entries_eq, entries_eq, same]

end SymbolTable

end MiniPascal
