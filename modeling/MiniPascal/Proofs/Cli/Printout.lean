import MiniPascal.Cli.Session
import MiniPascal.Proofs.Decimal.Unbroken
import MiniPascal.Proofs.Evaluation.DefiniteAssignment
import MiniPascal.Proofs.Naming.History
import MiniPascal.Proofs.Naming.Rearrangement

set_option autoImplicit false

namespace MiniPascal

-- Where a character stands for the first time, a text can be cut in one way only.
theorem append_inj_of_notMem {c : Char} {front front' back back' : List Char} (before : c ∉ front)
    (before' : c ∉ front') (same : front ++ c :: back = front' ++ c :: back') :
    front = front' ∧ back = back' := by
  rcases List.append_eq_append_iff.1 same with ⟨more, rfl, rest⟩ | ⟨more, rfl, rest⟩
  · cases more with
    | nil => simpa using rest
    | cons first more =>
      obtain ⟨rfl, -⟩ := List.cons.inj rest
      simp at before'
  · cases more with
    | nil => simpa using rest.symm
    | cons first more =>
      obtain ⟨rfl, -⟩ := List.cons.inj rest
      simp at before

section Lines

variable {β : Type} {line : β → String} {items items' : List β} {text : String}

/-- The text has one line for each of the items, in their order, and nothing else. -/
structure PrintsLines (line : β → String) (items : List β) (text : String) : Prop where
  joined : text = String.join (items.map fun item => line item ++ "\n")
  unbroken : ∀ item ∈ items, Unbroken (line item)

theorem PrintsLines.map_line_eq (prints : PrintsLines line items text)
    (prints' : PrintsLines line items' text) : items.map line = items'.map line := by
  obtain ⟨joined, unbroken⟩ := prints
  obtain ⟨joined', unbroken'⟩ := prints'
  have same := congrArg String.toList (joined.symm.trans joined')
  simp only [String.toList_join, List.flatMap_map, String.toList_append] at same
  clear joined joined'
  induction items generalizing items' with
  | nil =>
    cases items' with
    | nil => rfl
    | cons item rest => simp at same
  | cons item rest ih =>
    cases items' with
    | nil => simp at same
    | cons item' rest' =>
      simp only [List.forall_mem_cons] at unbroken unbroken'
      simp only [List.flatMap_cons, List.append_assoc] at same
      obtain ⟨first, others⟩ := append_inj_of_notMem unbroken.1 unbroken'.1 same
      rw [List.map_cons, List.map_cons, String.toList_inj.1 first, ih unbroken.2 unbroken'.2 others]

theorem PrintsLines.items_eq (prints : PrintsLines line items text)
    (prints' : PrintsLines line items' text)
    (apart : ∀ a ∈ items, ∀ b ∈ items', line a = line b → a = b) : items = items' := by
  have same := prints.map_line_eq prints'
  clear prints prints'
  induction items generalizing items' with
  | nil => exact (List.map_eq_nil_iff.1 same.symm).symm
  | cons item rest ih =>
    obtain ⟨item', rest', rfl, first, others⟩ := List.map_eq_cons_iff.1 same.symm
    have sameFirst : item = item' :=
      apart item List.mem_cons_self item' List.mem_cons_self first.symm
    have sameRest : rest = rest' :=
      ih (fun a among b among' =>
        apart a (List.mem_cons_of_mem _ among) b (List.mem_cons_of_mem _ among')) others.symm
    rw [sameFirst, sameRest]

end Lines

def IsWord (text : String) : Prop :=
  text.toList.all Text.isAlphanumeric

namespace IsWord

variable {word word' : String}

theorem notMem {c : Char} (isWord : IsWord word) (separates : Text.isAlphanumeric c = false) :
    c ∉ word.toList := by
  intro among
  have alphanumeric := List.all_eq_true.1 isWord c among
  rw [separates] at alphanumeric
  cases alphanumeric

theorem unbroken (isWord : IsWord word) : Unbroken word :=
  isWord.notMem (by decide +kernel)

theorem append_inj {c : Char} {rest rest' : List Char} (isWord : IsWord word) (isWord' : IsWord word')
    (separates : Text.isAlphanumeric c = false)
    (same : word.toList ++ c :: rest = word'.toList ++ c :: rest') : word = word' ∧ rest = rest' := by
  obtain ⟨first, others⟩ :=
    append_inj_of_notMem (isWord.notMem separates) (isWord'.notMem separates) same
  exact ⟨String.toList_inj.1 first, others⟩

end IsWord

theorem IsIdentifier.toWord {name : String} (isName : IsIdentifier name) : IsWord name :=
  (isIdentifier_iff.1 isName).2.1

theorem TypeName.isWord (t : TypeName) : IsWord t.text := by
  cases t <;> rfl

namespace Symbol

structure Legible (s : Symbol) : Prop where
  name : IsWord s.name
  typeName : ∀ typeName ∈ s.typeName, IsWord typeName

variable {s s' : Symbol}

theorem Legible.unbroken (legible : s.Legible) : Unbroken s.text := by
  obtain ⟨name, typeName⟩ := s
  cases typeName with
  | none => exact legible.name.unbroken
  | some typeName =>
    have marks : Unbroken "<" ∧ Unbroken ":" ∧ Unbroken ">" := by decide
    simp only [text, unbroken_append, marks, true_and, and_true]
    exact ⟨legible.name.unbroken, (legible.typeName typeName rfl).unbroken⟩

theorem Legible.text_inj (legible : s.Legible) (legible' : s'.Legible) (same : s.text = s'.text) :
    s = s' := by
  have opening : Text.isAlphanumeric '<' = false := by decide +kernel
  have colon : Text.isAlphanumeric ':' = false := by decide +kernel
  obtain ⟨name, typeName⟩ := s
  obtain ⟨name', typeName'⟩ := s'
  have characters := congrArg String.toList same
  cases typeName with
  | none =>
    cases typeName' with
    | none => exact congrArg (Symbol.mk · none) same
    | some typeName' =>
      -- The other text starts with a character that is in no name.
      have among : '<' ∈ name.toList := by
        change name.toList = _ at characters
        simp [characters, text]
      exact absurd among (legible.name.notMem opening)
  | some typeName =>
    cases typeName' with
    | none =>
      have among : '<' ∈ name'.toList := by
        change _ = name'.toList at characters
        simp [← characters, text]
      exact absurd among (legible'.name.notMem opening)
    | some typeName' =>
      simp only [text, String.toList_append, List.append_assoc, List.append_cancel_left_eq]
        at characters
      obtain ⟨sameName, rest⟩ := legible.name.append_inj legible'.name colon characters
      have sameType := String.toList_inj.1 (List.append_cancel_right rest)
      exact congrArg₂ Symbol.mk sameName (congrArg some sameType)

end Symbol

theorem exists_of_bind_ok {ε α β : Type} {x : Except ε α} {f : α → Except ε β} {b : β}
    (ran : (x >>= f) = .ok b) : ∃ a, x = .ok a ∧ f a = .ok b := by
  cases x with
  | error e => cases ran
  | ok a => exact ⟨a, rfl, ran⟩

namespace Program

variable {text : String} {p : Program}

def Gives (p : Program) (scope : Scope) : Prop :=
  (Stage.evaluate p).result = .ok scope ∨ (Stage.run p).result = .ok scope

theorem Gives.evaluated {scope : Scope} (gives : p.Gives scope) : p.evaluate = .ok scope := by
  have ends : (Stage.evaluate p).result = .ok scope := by
    rcases gives with evaluated | ran
    · exact evaluated
    · rw [p.result_run_eq] at ran
      obtain ⟨_, -, evaluated⟩ := exists_of_bind_ok ran
      exact evaluated
  rw [Stage.result_evaluate] at ends
  cases evaluated : p.evaluate with
  | error e =>
    rw [evaluated] at ends
    cases ends
  | ok scope' =>
    rw [evaluated] at ends
    cases ends
    rfl

theorem Gives.mem_names_iff {scope : Scope} (gives : p.Gives scope) (name : String) :
    name ∈ scope.names ↔ name ∈ p.targets := by
  have evaluated := gives.evaluated
  rw [p.evaluate_eq_scopeAfter] at evaluated
  rw [Statement.mem_names_scopeAfter evaluated]
  simp [targets, NameMap.mem_names_iff]

theorem Gives.isWord (parsed : (Stage.parse text).result = .ok p) {scope : Scope}
    (gives : p.Gives scope) {name : String} (among : name ∈ scope.names) : IsWord name := by
  obtain ⟨step, isStep, rfl⟩ := List.mem_map.1 ((gives.mem_names_iff name).1 among)
  have used : Use.target step.1 ∈ p.uses :=
    List.mem_flatMap.2 ⟨step, isStep, List.mem_append_right _ List.mem_cons_self⟩
  exact ((isIdentifier_of_parse parsed).2 _ used).toWord

theorem legible_of_mem_sorted (parsed : (Stage.parse text).result = .ok p) {s : Symbol}
    (among : s ∈ p.table.sorted) : s.Legible := by
  have found := (p.table.listing_sorted.complete s).1 among
  rcases List.mem_append.1 (SymbolTable.mem_of_lookup_ofHistory found) with seeded | declared
  · rcases List.mem_pair.1 seeded with rfl | rfl
    · exact ⟨TypeName.integer.isWord, nofun⟩
    · exact ⟨TypeName.real.isWord, nofun⟩
  · obtain ⟨d, isDeclared, rfl⟩ := List.mem_map.1 declared
    have isName := (isIdentifier_of_parse parsed).1 d.name (List.mem_map_of_mem isDeclared)
    refine ⟨isName.toWord, ?_⟩
    rintro typeName ⟨⟩
    exact d.typeName.isWord

theorem table_of_resolve {table : SymbolTable} (resolved : (Stage.resolve p).result = .ok table) :
    table = p.table := by
  rw [p.result_resolve_eq] at resolved
  obtain ⟨_, -, same⟩ := exists_of_bind_ok resolved
  exact (Except.ok.inj same).symm

end Program

namespace Cli

def scopeLine (entry : String × Number) : String :=
  entry.1 ++ " = " ++ entry.2.text

theorem scopeLine_inj {entry entry' : String × Number} (isWord : IsWord entry.1)
    (isWord' : IsWord entry'.1) (same : scopeLine entry = scopeLine entry') :
    entry.1 = entry'.1 ∧ entry.2.text = entry'.2.text := by
  have blank : Text.isAlphanumeric ' ' = false := by decide +kernel
  have characters := congrArg String.toList same
  simp only [scopeLine, String.toList_append, List.append_assoc] at characters
  obtain ⟨sameName, rest⟩ := isWord.append_inj isWord' blank characters
  exact ⟨sameName, String.toList_inj.1 (List.append_cancel_left rest)⟩

variable {text : String} {p : Program}

theorem printsLines_scopeText (parsed : (Stage.parse text).result = .ok p) {scope : Scope}
    (gives : p.Gives scope) : PrintsLines scopeLine scope.entries (scopeText scope) where
  joined := rfl
  unbroken entry among := by
    have name := (gives.isWord parsed (List.mem_map_of_mem among)).unbroken
    have equals : Unbroken " = " := by decide
    simp only [scopeLine, unbroken_append]
    exact ⟨⟨name, equals⟩, entry.2.unbroken_text⟩

theorem printsLines_symbolsText (parsed : (Stage.parse text).result = .ok p) :
    PrintsLines Symbol.text p.table.sorted (symbolsText p.table) where
  joined := rfl
  unbroken _ among := (Program.legible_of_mem_sorted parsed among).unbroken

theorem scopeText_listed (parsed : (Stage.parse text).result = .ok p) {scope : Scope}
    (gives : p.Gives scope) {entries : List (String × Number)}
    (listing : Listing Prod.fst scope.entry? entries) :
    (∀ name, name ∈ entries.map Prod.fst ↔ name ∈ p.targets) ∧
    PrintsLines scopeLine (sortedByName Prod.fst entries) (scopeText scope) := by
  constructor
  · intro name
    rw [← gives.mem_names_iff name]
    exact ((listing.perm scope.listing_entries).map Prod.fst).mem_iff
  · rw [listing.sortedByName_eq scope.listing_entries scope.ordered]
    exact printsLines_scopeText parsed gives

theorem symbolsText_listed (parsed : (Stage.parse text).result = .ok p) {symbols : List Symbol}
    (listing : Listing Symbol.name p.table.lookup symbols) :
    PrintsLines Symbol.text (sortedByName Symbol.name symbols) (symbolsText p.table) := by
  rw [listing.sortedByName_eq p.table.listing_sorted p.table.ordered_sorted]
  exact printsLines_symbolsText parsed

section Unambiguous

variable {text' : String} {p' : Program}

theorem scopeText_inj (parsed : (Stage.parse text).result = .ok p)
    (parsed' : (Stage.parse text').result = .ok p') {scope scope' : Scope} (gives : p.Gives scope)
    (gives' : p'.Gives scope')
    (sameValue : ∀ name value value', scope.lookup name = some value →
      scope'.lookup name = some value' → value.text = value'.text → value = value')
    (same : scopeText scope = scopeText scope') : scope = scope' := by
  have prints := printsLines_scopeText parsed gives
  have prints' := printsLines_scopeText parsed' gives'
  rw [← same] at prints'
  apply NameMap.eq_of_entries
  apply prints.items_eq prints'
  intro entry among entry' among' sameLine
  have isWord := gives.isWord parsed (List.mem_map_of_mem among)
  have isWord' := gives'.isWord parsed' (List.mem_map_of_mem among')
  obtain ⟨sameName, sameText⟩ := scopeLine_inj isWord isWord' sameLine
  have found := scope.mem_entries_iff.1 among
  have found' := scope'.mem_entries_iff.1 among'
  rw [← sameName] at found'
  exact Prod.ext sameName (sameValue _ _ _ found found' sameText)

theorem symbolsText_inj (parsed : (Stage.parse text).result = .ok p)
    (parsed' : (Stage.parse text').result = .ok p')
    (same : symbolsText p.table = symbolsText p'.table) : p.table = p'.table := by
  have prints := printsLines_symbolsText parsed
  have prints' := printsLines_symbolsText parsed'
  rw [← same] at prints'
  apply SymbolTable.eq_of_sorted
  apply prints.items_eq prints'
  intro s among s' among' sameLine
  have legible := Program.legible_of_mem_sorted parsed among
  have legible' := Program.legible_of_mem_sorted parsed' among'
  exact legible.text_inj legible' sameLine

end Unambiguous

/-- A program's values are printed in one line for each name that it assigns, and its symbols in one line
each, in the strict order of the names, whatever order they are handed out in. Two printouts of values
that are the same have the same values, provided that a name's values in both are the same if their texts
are; and two printouts of symbols that are the same have the same symbols. -/
theorem printed_results (parsed : (Stage.parse text).result = .ok p) :
    (∀ scope, p.Gives scope → ∀ entries, Listing Prod.fst scope.entry? entries →
      (∀ name, name ∈ entries.map Prod.fst ↔ name ∈ p.targets) ∧
      (sortedByName Prod.fst entries).Pairwise (fun a b => a.1 < b.1) ∧
      PrintsLines scopeLine (sortedByName Prod.fst entries) (scopeText scope)) ∧
    (∀ table, (Stage.resolve p).result = .ok table →
      ∀ symbols, Listing Symbol.name table.lookup symbols →
      (sortedByName Symbol.name symbols).Pairwise (fun a b => a.name < b.name) ∧
      PrintsLines Symbol.text (sortedByName Symbol.name symbols) (symbolsText table)) ∧
    ∀ text' p', (Stage.parse text').result = .ok p' →
      (∀ scope scope', p.Gives scope → p'.Gives scope' →
        (∀ name value value', scope.lookup name = some value → scope'.lookup name = some value' →
          value.text = value'.text → value = value') →
        scopeText scope = scopeText scope' → scope = scope') ∧
      ∀ table table', (Stage.resolve p).result = .ok table → (Stage.resolve p').result = .ok table' →
        symbolsText table = symbolsText table' → table = table' := by
  refine ⟨?_, ?_, fun text' p' parsed' => ⟨?_, ?_⟩⟩
  · intro scope gives entries listing
    obtain ⟨names, prints⟩ := scopeText_listed parsed gives listing
    exact ⟨names, ordered_sortedByName listing.distinct, prints⟩
  · intro table resolved symbols listing
    rw [Program.table_of_resolve resolved] at listing ⊢
    exact ⟨ordered_sortedByName listing.distinct, symbolsText_listed parsed listing⟩
  · intro scope scope' gives gives'
    exact scopeText_inj parsed parsed' gives gives'
  · intro table table' resolved resolved'
    rw [Program.table_of_resolve resolved, Program.table_of_resolve resolved']
    exact symbolsText_inj parsed parsed'

-- The same two values, assigned in one order and in the other.
def assignsDownwards : Derivation .program :=
  .program "P" (.block [⟨"b", ["a"], .integer⟩]
    (.compound (.assigning (.assignment "b" (.expr (.term (.number (.integer 1)) .noFactors) .noTerms)))
      (.moreStatements (.assigning (.assignment "a"
        (.expr (.term (.signed .minus (.var "b")) .noFactors) .noTerms))) .noStatements)))

def assignsUpwards : Derivation .program :=
  .program "P" (.block [⟨"b", [], .integer⟩, ⟨"a", [], .integer⟩]
    (.compound (.assigning (.assignment "a"
        (.expr (.term (.signed .minus (.number (.integer 1))) .noFactors) .noTerms)))
      (.moreStatements (.assigning (.assignment "b"
        (.expr (.term (.number (.integer 1)) .noFactors) .noTerms))) .noStatements)))

theorem printed_results_reordered : ∃ scope table,
    (Stage.parse " PROGRAM P ; VAR b , a : INTEGER ; BEGIN b := 1 ; a := - b END .").result =
        .ok assignsDownwards.tree ∧
      (Stage.parse " PROGRAM P ; VAR b : INTEGER ; a : INTEGER ; BEGIN a := - 1 ; b := 1 END .").result =
        .ok assignsUpwards.tree ∧
      (Stage.run assignsDownwards.tree).result = .ok scope ∧
      (Stage.resolve assignsDownwards.tree).result = .ok table ∧
      (Stage.evaluate assignsUpwards.tree).result = .ok scope ∧
      (Stage.resolve assignsUpwards.tree).result = .ok table ∧
      PrintsLines scopeLine (sortedByName Prod.fst [("b", .integer 1), ("a", .integer (-1))])
        (scopeText scope) ∧
      scopeText scope = "a = -1\nb = 1\n" ∧
      PrintsLines Symbol.text (sortedByName Symbol.name table.sorted) (symbolsText table) ∧
      symbolsText table = "INTEGER\nREAL\n<a:INTEGER>\n<b:INTEGER>\n" := by
  let scope : Scope := (NameMap.empty.insert "b" (.integer 1)).insert "a" (.integer (-1))
  let scope' : Scope := (NameMap.empty.insert "a" (.integer (-1))).insert "b" (.integer 1)
  have sameValue : ∀ name value value', scope.lookup name = some value →
      scope'.lookup name = some value' → value.text = value'.text → value = value' := by
    intro name value value' found found' _
    simp only [scope, scope', NameMap.lookup_insert, NameMap.lookup_empty] at found found'
    split_ifs at found found' <;> simp_all
  have isName : IsIdentifier "P" ∧ IsIdentifier "a" ∧ IsIdentifier "b" := by decide +kernel
  have one : (Number.integer 1).lexeme.Plain := Lexeme.plain_integer (by decide)
  have plain : ∀ l ∈ assignsDownwards.lexemes ++ assignsUpwards.lexemes, l.Plain := by
    simp [assignsDownwards, assignsUpwards, DeclarationGroup.sectionLexemes, DeclarationGroup.lexemes,
      TypeName.lexeme, UnaryOp.lexeme, Lexeme.plain_keyword, Lexeme.plain_mark, Lexeme.plain_identifier,
      isName, one]
  rw [List.forall_mem_append] at plain
  have text : " PROGRAM P ; VAR b , a : INTEGER ; BEGIN b := 1 ; a := - b END ." =
      String.ofList (render assignsDownwards.lexemes) := by decide +kernel
  have text' : " PROGRAM P ; VAR b : INTEGER ; a : INTEGER ; BEGIN a := - 1 ; b := 1 END ." =
      String.ofList (render assignsUpwards.lexemes) := by decide +kernel
  have parsed := parse_render (d := assignsDownwards) plain.1 (by decide)
  have parsed' := parse_render (d := assignsUpwards) plain.2 (by decide)
  rw [← text] at parsed
  rw [← text'] at parsed'
  have ran : (Stage.run assignsDownwards.tree).result = .ok scope := rfl
  have resolved : (Stage.resolve assignsDownwards.tree).result = .ok assignsDownwards.tree.table := rfl
  have evaluated' : (Stage.evaluate assignsUpwards.tree).result = .ok scope' := rfl
  have resolved' : (Stage.resolve assignsUpwards.tree).result = .ok assignsUpwards.tree.table := rfl
  have listing : Listing Prod.fst scope.entry? [("b", .integer 1), ("a", .integer (-1))] :=
    ⟨by decide, fun item => (List.Perm.swap _ _ []).mem_iff.trans (scope.listing_entries.complete item)⟩
  obtain ⟨scopes, tables, unambiguous⟩ := printed_results parsed
  obtain ⟨scopesAlike, tablesAlike⟩ := unambiguous _ _ parsed'
  have same := scopesAlike scope scope' (.inr ran) (.inl evaluated') sameValue (by decide +kernel)
  have sameTable := tablesAlike _ _ resolved resolved' (by decide +kernel)
  obtain ⟨-, -, prints⟩ := scopes scope (.inr ran) _ listing
  obtain ⟨-, printsTable⟩ := tables _ resolved _ (SymbolTable.listing_sorted _)
  exact ⟨scope, _, parsed, parsed', ran, resolved, same ▸ evaluated', sameTable ▸ resolved', prints,
    by decide +kernel, printsTable, by decide +kernel⟩

end Cli

end MiniPascal
