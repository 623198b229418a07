import MiniPascal.Proofs.Naming.Listing

set_option autoImplicit false

namespace MiniPascal

namespace SymbolTable

def lastNamed (symbols : List Symbol) (name : String) : Option Symbol :=
  symbols.reverse.find? (·.name == name)

theorem lastNamed_nil (name : String) : lastNamed [] name = none := rfl

theorem lastNamed_cons (s : Symbol) (rest : List Symbol) (name : String) :
    lastNamed (s :: rest) name = (lastNamed rest name).or (if name = s.name then some s else none) := by
  by_cases same : name = s.name
  next => simp [lastNamed, same]
  next => simp [lastNamed, same, Ne.symm same]

theorem lookup_defineAll (table : SymbolTable) (symbols : List Symbol) (name : String) :
    (table.defineAll symbols).lookup name = (lastNamed symbols name).or (table.lookup name) := by
  induction symbols generalizing table with
  | nil => rfl
  | cons s rest ih =>
    rw [defineAll, List.foldl_cons, ← defineAll, ih, lookup_define, lastNamed_cons, Option.or_assoc]
    by_cases same : name = s.name <;> simp [same]

theorem name_of_lookup {table : SymbolTable} {name : String} {s : Symbol}
    (found : table.lookup name = some s) : s.name = name :=
  table.keyed (name, s) (table.symbols.mem_entries_iff.2 found)

theorem ext_lookup {table table' : SymbolTable}
    (same : ∀ name, table.lookup name = table'.lookup name) : table = table' :=
  eq_of_symbols (NameMap.ext_lookup same)

def ofHistory (history : List Symbol) : SymbolTable :=
  initial.defineAll history

theorem lookup_ofHistory (history : List Symbol) (name : String) :
    (ofHistory history).lookup name = (lastNamed history name).or (lastNamed builtins name) := by
  have start : initial.lookup name = lastNamed builtins name := by
    rw [initial, lookup_defineAll]
    exact Option.or_none
  rw [ofHistory, lookup_defineAll, start]

theorem mem_of_lookup_ofHistory {history : List Symbol} {name : String} {s : Symbol}
    (found : (ofHistory history).lookup name = some s) : s ∈ builtins ++ history := by
  have stored {symbols : List Symbol} (last : lastNamed symbols name = some s) : s ∈ symbols :=
    List.mem_reverse.1 (List.mem_of_find?_eq_some last)
  rw [lookup_ofHistory, Option.or_eq_some_iff] at found
  rcases found with defined | ⟨-, seeded⟩
  · exact List.mem_append_right _ (stored defined)
  · exact List.mem_append_left _ (stored seeded)

theorem mem_names_ofHistory (history : List Symbol) (name : String) :
    name ∈ (ofHistory history).names ↔ name ∈ (builtins ++ history).map Symbol.name := by
  have unnamed : name ∉ empty.names := List.not_mem_nil
  rw [ofHistory, mem_names_defineAll, initial, mem_names_defineAll, List.map_append, List.mem_append,
    or_iff_left unnamed, or_comm]

theorem size_ofHistory (history : List Symbol) :
    (ofHistory history).size = ((builtins ++ history).map Symbol.name).toFinset.card := by
  rw [size_eq_card]
  congr 1
  ext name
  rw [List.mem_toFinset, List.mem_toFinset, mem_names_ofHistory]

theorem isEmpty_ofHistory (history : List Symbol) : (ofHistory history).isEmpty = false := by
  have named : TypeName.integer.text ∈ (ofHistory history).names := by
    rw [mem_names_ofHistory]
    exact List.mem_cons_self
  cases empty : (ofHistory history).isEmpty with
  | false => rfl
  | true =>
    rw [names, NameMap.names, List.isEmpty_iff.1 empty] at named
    cases named

theorem mem_sorted_iff (table : SymbolTable) (s : Symbol) :
    s ∈ table.sorted ↔ ∃ name, table.lookup name = some s := by
  rw [table.listing_sorted.complete]
  constructor
  · intro found
    exact ⟨s.name, found⟩
  · rintro ⟨name, found⟩
    rw [name_of_lookup found, found]

/-- After any definitions a look-up gives the last symbol that was defined under the name, else the type
of the language that has it, else nothing. The symbols stand under their own names, the table counts each
name once, and sorted by name, in whatever order the table hands its symbols out, they make up one list.
Definitions that agree on the last symbol of each name make the same table. -/
theorem ofHistory_keeps_last (history : List Symbol) :
    (∀ name, (ofHistory history).lookup name =
      (lastNamed history name).or (lastNamed builtins name)) ∧
    (∀ name s, (ofHistory history).lookup name = some s → s.name = name) ∧
    (ofHistory history).size = ((builtins ++ history).map Symbol.name).toFinset.card ∧
    (ofHistory history).isEmpty = false ∧
    (ofHistory history).sorted.Pairwise (fun a b => a.name < b.name) ∧
    (∀ s, s ∈ (ofHistory history).sorted ↔ ∃ name, (ofHistory history).lookup name = some s) ∧
    (∀ symbols, Listing Symbol.name (ofHistory history).lookup symbols →
      sortedByName Symbol.name symbols = (ofHistory history).sorted) ∧
    ∀ history', (∀ name, lastNamed history name = lastNamed history' name) →
      ofHistory history = ofHistory history' ∧
      (ofHistory history).sorted = (ofHistory history').sorted ∧
      (ofHistory history).text = (ofHistory history').text := by
  refine ⟨lookup_ofHistory history, fun name s => name_of_lookup, size_ofHistory history,
    isEmpty_ofHistory history, ordered_sorted _, mem_sorted_iff _, ?_, ?_⟩
  · intro symbols listing
    exact listing.sortedByName_eq (listing_sorted _) (ordered_sorted _)
  · intro history' agree
    have same : ofHistory history = ofHistory history' := by
      apply ext_lookup
      intro name
      rw [lookup_ofHistory, lookup_ofHistory, agree]
    rw [same]
    exact ⟨rfl, rfl, rfl⟩

-- One of the types is replaced by a variable, and `é` by a type.
def replacedOnce : List Symbol :=
  [⟨"z", none⟩, ⟨"é", none⟩, ⟨"REAL", some "z"⟩]

def replacedTwice : List Symbol :=
  [⟨"é", some "REAL"⟩, ⟨"REAL", some "é"⟩, ⟨"REAL", some "z"⟩, ⟨"é", none⟩, ⟨"z", none⟩]

theorem ofHistory_keeps_last_replaced :
    ofHistory replacedOnce = ofHistory replacedTwice ∧
      (ofHistory replacedTwice).text = "Symbols: INTEGER, <REAL:z>, z, é" ∧
      sortedByName Symbol.name (ofHistory replacedOnce).sorted = (ofHistory replacedOnce).sorted := by
  have agree (name : String) : lastNamed replacedOnce name = lastNamed replacedTwice name := by
    by_cases isReal : name = "REAL"
    next =>
      subst isReal
      decide
    next =>
      by_cases isLetter : name = "é"
      next =>
        subst isLetter
        decide
      next => simp [replacedOnce, replacedTwice, lastNamed_cons, lastNamed_nil, isReal, isLetter]
  obtain ⟨-, -, -, -, -, -, sorts, agreeing⟩ := ofHistory_keeps_last replacedOnce
  exact ⟨(agreeing _ agree).1, by decide +kernel, sorts _ (listing_sorted _)⟩

end SymbolTable

end MiniPascal
