import Mathlib.Data.Finset.Card
import MiniPascal.Naming.Symbol

set_option autoImplicit false

namespace MiniPascal

theorem NameMap.nodup_names {α : Type} (map : NameMap α) : map.names.Nodup := by
  rw [names, List.Nodup, List.pairwise_map]
  apply map.ordered.imp
  intro a b below same
  rw [same] at below
  exact String.lt_irrefl _ below

namespace SymbolTable

variable (table : SymbolTable) (s : Symbol)

theorem lookup_define (name : String) :
    (table.define s).lookup name = if name = s.name then some s else table.lookup name := by
  simp [lookup, define]

theorem mem_names_iff {name : String} : name ∈ table.names ↔ (table.lookup name).isSome :=
  NameMap.mem_names_iff

theorem mem_names_define {name : String} :
    name ∈ (table.define s).names ↔ name = s.name ∨ name ∈ table.names := by
  rw [mem_names_iff, mem_names_iff, lookup_define]
  by_cases same : name = s.name <;> simp [same]

theorem mem_names_defineAll {name : String} (symbols : List Symbol) :
    name ∈ (table.defineAll symbols).names ↔ name ∈ symbols.map Symbol.name ∨ name ∈ table.names := by
  induction symbols generalizing table with
  | nil => simp [defineAll]
  | cons s rest ih =>
    rw [defineAll, List.foldl_cons, ← defineAll, ih, mem_names_define, List.map_cons, List.mem_cons]
    tauto

theorem lookup_defineAll_of_notMem {name : String} {symbols : List Symbol}
    (other : name ∉ symbols.map Symbol.name) :
    (table.defineAll symbols).lookup name = table.lookup name := by
  induction symbols generalizing table with
  | nil => rfl
  | cons s rest ih =>
    rw [List.map_cons, List.mem_cons, not_or] at other
    rw [defineAll, List.foldl_cons, ← defineAll, ih _ other.2, lookup_define, if_neg other.1]

theorem lookup_defineAll_last {before after : List Symbol} (last : s.name ∉ after.map Symbol.name) :
    (table.defineAll (before ++ s :: after)).lookup s.name = some s := by
  have behind : table.defineAll (before ++ s :: after) =
      ((table.defineAll before).define s).defineAll after := by
    simp [defineAll]
  rw [behind, lookup_defineAll_of_notMem _ last, lookup_define, if_pos rfl]

theorem size_eq_card : table.size = table.names.toFinset.card := by
  have distinct := table.symbols.nodup_names
  rw [names, List.toFinset_card_of_nodup distinct, NameMap.names, List.length_map]
  rfl

end SymbolTable

end MiniPascal
