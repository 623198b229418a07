import MiniPascal.Proofs.Parser.Names

set_option autoImplicit false

namespace MiniPascal

-- The names of types are reserved.
theorem IsIdentifier.ne_typeName {name : String} (isName : IsIdentifier name) (t : TypeName) :
    name ≠ t.text := by
  cases t with
  | integer => exact (isName.notReserved .integer).symm
  | real => exact (isName.notReserved .real).symm

/-- The table has the types and the declared names in it and nothing else. A type has no type itself,
and a name has the type of its last declaration. -/
structure SymbolTable.Holds (table : SymbolTable) (declarations : List Declaration) : Prop where
  typeNames : ∀ t : TypeName, table.lookup t.text = some ⟨t.text, none⟩
  declared : ∀ before d after, declarations = before ++ d :: after →
    d.name ∉ after.map Declaration.name → table.lookup d.name = some ⟨d.name, some d.typeName.text⟩
  names : ∀ name, name ∈ table.names ↔
    (∃ t : TypeName, name = t.text) ∨ name ∈ declarations.map Declaration.name
  size : table.size = 2 + (declarations.map Declaration.name).toFinset.card

theorem SymbolTable.mem_names_initial {name : String} :
    name ∈ initial.names ↔ ∃ t : TypeName, name = t.text := by
  constructor
  · intro among
    rcases List.mem_pair.1 among with same | same
    · exact ⟨.integer, same⟩
    · exact ⟨.real, same⟩
  · rintro ⟨t, rfl⟩
    cases t <;> decide

namespace Program

variable {p : Program}

theorem mem_names_table {name : String} :
    name ∈ p.table.names ↔ name ∈ SymbolTable.initial.names ∨ name ∈ p.declaredNames := by
  rw [table, SymbolTable.mem_names_defineAll, p.names_symbols, or_comm]

theorem table_holds (isName : ∀ name ∈ p.declaredNames, IsIdentifier name) :
    p.table.Holds p.declarations where
  typeNames t := by
    have notDeclared : t.text ∉ p.symbols.map Symbol.name := by
      rw [p.names_symbols]
      exact fun declared => (isName _ declared).ne_typeName t rfl
    rw [table, SymbolTable.lookup_defineAll_of_notMem _ notDeclared]
    cases t <;> rfl
  declared before d after same last := by
    rw [table, symbols, same, List.map_append, List.map_cons]
    apply SymbolTable.lookup_defineAll_last
    rw [List.map_map]
    exact last
  names name := by
    rw [mem_names_table, SymbolTable.mem_names_initial]
    rfl
  size := by
    have apart : Disjoint SymbolTable.initial.names.toFinset p.declaredNames.toFinset := by
      rw [List.disjoint_toFinset_iff_disjoint]
      intro name initial declared
      obtain ⟨t, same⟩ := SymbolTable.mem_names_initial.1 initial
      exact (isName name declared).ne_typeName t same
    have all : p.table.names.toFinset =
        SymbolTable.initial.names.toFinset ∪ p.declaredNames.toFinset := by
      ext name
      simp [mem_names_table]
    rw [SymbolTable.size_eq_card, all, Finset.card_union_of_disjoint apart]
    rfl

end Program

/-- A parsed program is resolved if it declares all names that it uses, and then its table holds what
it declares. Else it fails for the first use of a name that it does not declare. -/
theorem resolve_parsed {text : String} {p : Program} (parsed : (Stage.parse text).result = .ok p) :
    ((∃ table, (Stage.resolve p).result = .ok table) ↔ ∀ u ∈ p.uses, u.name ∈ p.declaredNames) ∧
    (∀ table, (Stage.resolve p).result = .ok table → table.Holds p.declarations) ∧
    ∀ e, (Stage.resolve p).result = .error e →
      ∃ u, FirstNot (·.name ∈ p.declaredNames) p.uses u ∧ e = .name u.error := by
  obtain ⟨isName, usesName⟩ := isIdentifier_of_parse parsed
  have known (u : Use) (used : u ∈ p.uses) : u.name ∈ p.table.names ↔ u.name ∈ p.declaredNames := by
    rw [Program.mem_names_table, SymbolTable.mem_names_initial]
    exact or_iff_right fun ⟨t, same⟩ => (usesName u used).ne_typeName t same
  rw [Stage.result_resolve]
  rcases p.resolve_cases with ⟨resolved, allKnown⟩ | ⟨u, failed, isFirst⟩
  · rw [resolved]
    refine ⟨⟨fun _ u used => (known u used).1 (allKnown u used), fun _ => ⟨_, rfl⟩⟩, ?_, ?_⟩
    · intro table same
      cases same
      exact Program.table_holds isName
    · intro e same
      cases same
  · rw [failed]
    have undeclared := isFirst.congr known
    refine ⟨⟨?_, fun declared => absurd declared undeclared.not_forall⟩, ?_, ?_⟩
    · rintro ⟨table, same⟩
      cases same
    · intro table same
      cases same
    · intro e same
      cases same
      exact ⟨u, undeclared, rfl⟩

theorem resolve_parsed_redeclared :
    ∃ p table,
      (Stage.parse " PROGRAM P ; VAR a : INTEGER ; a : REAL ; BEGIN a := a END .").result = .ok p ∧
      (Stage.resolve p).result = .ok table ∧
      table.lookup "a" = some ⟨"a", some "REAL"⟩ ∧ table.size = 3 := by
  let d : Derivation .program := .program "P" (.block [⟨"a", [], .integer⟩, ⟨"a", [], .real⟩]
    (.compound (.assigning (.assignment "a" (.expr (.term (.var "a") .noFactors) .noTerms)))
      .noStatements))
  have isName : IsIdentifier "P" ∧ IsIdentifier "a" := by decide +kernel
  have plain : ∀ l ∈ d.lexemes, l.Plain := by
    simp [d, DeclarationGroup.sectionLexemes, DeclarationGroup.lexemes, TypeName.lexeme,
      Lexeme.plain_keyword, Lexeme.plain_mark, Lexeme.plain_identifier, isName]
  have text : " PROGRAM P ; VAR a : INTEGER ; a : REAL ; BEGIN a := a END ." =
      String.ofList (render d.lexemes) := by decide +kernel
  have parsed := parse_render (d := d) plain (by decide)
  rw [← text] at parsed
  obtain ⟨resolves, holds, -⟩ := resolve_parsed parsed
  obtain ⟨table, resolved⟩ := resolves.2 (by decide)
  refine ⟨d.tree, table, parsed, resolved, ?_, (holds table resolved).size⟩
  exact (holds table resolved).declared [⟨"a", .integer⟩] ⟨"a", .real⟩ [] rfl List.not_mem_nil

end MiniPascal
