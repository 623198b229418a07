import MiniPascal.Proofs.Parser.Expressions

set_option autoImplicit false

namespace MiniPascal

open MiniPascal.Parser

namespace Derivation

def statements : List (Derivation .statement) → Derivation .statements
  | [] => .noStatements
  | next :: rest => .moreStatements next (statements rest)

theorem lexemes_statements (rest : List (Derivation .statement)) :
    (statements rest).lexemes = rest.flatMap fun d => .mark .semicolon :: d.lexemes := by
  induction rest with
  | nil => rfl
  | cons next rest ih => simp [statements, lexemes, ih]

theorem tree_statements (rest : List (Derivation .statement)) :
    (statements rest).tree = rest.map tree := by
  induction rest with
  | nil => rfl
  | cons next rest ih => simp [statements, tree, ih]

theorem depth_statements_le {rest : List (Derivation .statement)} {room : Nat} :
    (statements rest).depth ≤ room ↔ ∀ d ∈ rest, d.depth ≤ room := by
  induction rest with
  | nil => simp [statements, depth]
  | cons next rest ih => rw [statements, depth, Nat.max_le, ih, List.forall_mem_cons]

theorem eq_statements : (d : Derivation .statements) → ∃ rest, statements rest = d
  | .noStatements => ⟨[], rfl⟩
  | .moreStatements next rest =>
    have ⟨others, same⟩ := rest.eq_statements
    ⟨next :: others, by rw [statements, same]⟩

theorem depth_compound_pos : (d : Derivation .compound) → 0 < d.depth
  | .compound _ _ => Nat.succ_pos _

end Derivation

namespace Phrase

section Statements

theorem assignment_readBy (room : Nat) : (of .assignment room).ReadBy (Parser.assignment room) := by
  cases room with
  | zero => exact tooDeep_readBy fun d => by cases d; simp
  | succ room =>
    have part : (name.andThen fun target =>
        ((of .expr room).map (Statement.assign target)).opened (.mark .assign)).Part
          (of .assignment (room + 1)) fun d => .assignment d.1 d.2 :=
      ⟨fun _ => rfl, fun _ => rfl,
        fun _ => ⟨fun h => ⟨trivial, Nat.le_of_succ_le_succ h⟩, fun h => Nat.succ_le_succ h.2⟩,
        fun _ ends _ => ends⟩
    have readsValue (target : String) : ((of .expr room).map (Statement.assign target)).ReadBy
        (do return .assign target (← Parser.expr room)) := fun s =>
      ((expressionsRead room).expr s).map fun _ s' => ⟨s'.log, rfl⟩
    have readsRest (target : String) :
        (((of .expr room).map (Statement.assign target)).opened (.mark .assign)).ReadBy
          (do eatMark .assign; return .assign target (← Parser.expr room)) := fun s =>
      .opened (readsValue target) (exactly_readBy rfl (by simp) s) expr_inhabited
    intro s
    refine part.readAt ?_ fun d _ => ?_
    · exact (name_readBy s).andThen (fun target s' _ => .enter _ _ (readsRest target)) expr_inhabited
        fun _ _ _ _ => trivial
    · cases d with
      | assignment target value => exact ⟨(target, value), rfl⟩

theorem statement_readBy {room : Nat} {x : Parser (List Statement)}
    (reads : (of .compound room).ReadBy x) : (of .statement room).ReadBy (statement x room) := by
  have nestedPart : ((of .compound room).map Statement.compound).Part (of .statement room) .nested :=
    ⟨fun _ => rfl, fun _ => rfl, fun _ => Iff.rfl, fun _ _ => trivial⟩
  have assigningPart : (of .assignment room).Part (of .statement room) .assigning := by
    refine ⟨fun _ => rfl, fun _ => rfl, fun _ => Iff.rfl, ?_⟩
    rintro _ (rfl | rfl) <;> exact ⟨rfl, rfl⟩
  have emptyPart : (nothing Statement.noOp).Part (of .statement room) fun _ => .empty :=
    ⟨fun _ => rfl, fun _ => rfl, fun _ => iff_of_true (Nat.zero_le _) trivial, fun _ _ => trivial⟩
  intro s
  have kind := s.stream.kind_lexeme
  by_cases isBegin : s.stream.kind = .keyword .blockBegin
  next =>
    refine .congr (y := do return .compound (← x)) ?_
      (nestedPart.readAt ((reads s).map fun _ s' => ⟨s'.log, rfl⟩) fun d begins => ?_)
    · rw [statement, current_bind, isBegin]
    have here : s.stream.lexeme = .keyword .blockBegin :=
      Lexeme.eq_of_kind_eq rfl (kind.trans isBegin)
    rw [here] at begins
    cases d with
    | nested body => exact ⟨body, rfl⟩
    | assigning step => cases step; cases begins
    | empty => rcases begins with begins | begins <;> cases begins
  next =>
    by_cases isName : s.stream.kind = .identifier
    next =>
      refine .congr ?_ (assigningPart.readAt (assignment_readBy room s) fun d begins => ?_)
      · rw [statement, current_bind, isName]
      obtain ⟨target, here⟩ := Lexeme.eq_identifier_of_kind (kind.trans isName)
      rw [here] at begins
      cases d with
      | nested body => cases body; cases begins
      | assigning step => exact ⟨step, rfl⟩
      | empty => rcases begins with begins | begins <;> cases begins
    next =>
      refine .congr (y := do enter room .noOp; return .noOp) ?_
        (emptyPart.readAt (.enter _ _ (nothing_readBy _)) fun d begins => ?_)
      · rw [statement, current_bind]
        cases here : s.stream.kind with
        | keyword word => cases word <;> first | rfl | exact absurd here isBegin
        | identifier => exact absurd here isName
        | _ => rfl
      cases d with
      | nested body =>
        cases body
        have first : .keyword .blockBegin = s.stream.lexeme := begins
        exact absurd (kind ▸ first ▸ rfl) isBegin
      | assigning step =>
        cases step with
        | assignment target value =>
          have first : .identifier target = s.stream.lexeme := begins
          exact absurd (kind ▸ first ▸ rfl) isName
      | empty => exact ⟨(), rfl⟩

theorem statements_part (room : Nat) :
    ((((of .statement room).separated .semicolon).map id).closed (.keyword .blockEnd)
      |>.opened (.keyword .blockBegin)).Part (of .compound (room + 1))
        fun d => .compound d.1 (.statements d.2) where
  lexemes d := by
    simp [of, Phrase.opened, Phrase.closed, Phrase.map, Phrase.separated, Derivation.lexemes,
      Derivation.lexemes_statements]
  value d := by
    simp [of, Phrase.opened, Phrase.closed, Phrase.map, Phrase.separated, Derivation.tree,
      Derivation.tree_statements]
  fitting d := by
    simp only [of, Phrase.opened, Phrase.closed, Phrase.map, Phrase.separated, Derivation.depth,
      Nat.add_le_add_iff_right, Nat.max_le, Derivation.depth_statements_le]
  ends _ _ := trivial

theorem compound_readBy (room : Nat) : (of .compound room).ReadBy (Parser.compound room) := by
  induction room with
  | zero => exact tooDeep_readBy Derivation.depth_compound_pos
  | succ room ih =>
    have readsBody : (((of .statement room).separated .semicolon).map id).closed (.keyword .blockEnd)
        |>.ReadBy (do
          let body ← Parser.separated .semicolon (statement (Parser.compound room) room)
          eatKeyword .blockEnd
          return body) :=
      ((statement_readBy ih).separated (.inl rfl) ⟨.empty⟩).closed rfl (by simp)
        ⟨by simp [Lexeme.kind], .inr rfl⟩ id
    intro s
    refine (statements_part room).readAt (.enter _ _ fun s => ?_) fun d _ => ?_
    · exact .opened readsBody (exactly_readBy rfl (by simp) s) ⟨.empty, []⟩
    · cases d with
      | compound first rest =>
        obtain ⟨others, rfl⟩ := rest.eq_statements
        exact ⟨(first, others), rfl⟩

end Statements

section Declarations

def typeName : Phrase TypeName TypeName where
  lexemes t := [t.lexeme]
  value := id
  fitting _ := True
  ends _ := True

theorem typeName_part (t : TypeName) :
    ((exactly t.lexeme).map fun _ => t).Part typeName fun _ => t :=
  ⟨fun _ => rfl, fun _ => rfl, fun _ => Iff.rfl, fun _ ends => ends⟩

theorem typeName_readBy : typeName.ReadBy Parser.typeName := by
  intro s
  have kind := s.stream.kind_lexeme
  by_cases isInteger : s.stream.kind = .keyword .integer
  next =>
    refine .congr (y := do eatKeyword .integer; return .integer) ?_ ((typeName_part .integer).readAt
      ((exactly_readBy rfl (by simp [TypeName.lexeme]) s).map fun _ s' => ⟨s'.log, rfl⟩)
      fun t begins => ?_)
    · rw [Parser.typeName, current_bind, if_pos isInteger]
    have here : s.stream.lexeme = .keyword .integer :=
      Lexeme.eq_of_kind_eq rfl (kind.trans isInteger)
    rw [here] at begins
    cases t with
    | integer => exact ⟨(), rfl⟩
    | real => cases begins
  next =>
    refine .congr (y := do eatKeyword .real; return .real) ?_ ((typeName_part .real).readAt
      ((exactly_readBy rfl (by simp [TypeName.lexeme]) s).map fun _ s' => ⟨s'.log, rfl⟩)
      fun t begins => ?_)
    · rw [Parser.typeName, current_bind, if_neg isInteger]
    cases t with
    | integer =>
      have first : .keyword .integer = s.stream.lexeme := begins
      exact absurd (kind ▸ first ▸ rfl) isInteger
    | real => exact ⟨(), rfl⟩

def group : Phrase DeclarationGroup (List Declaration) where
  lexemes := DeclarationGroup.lexemes
  value := DeclarationGroup.declarations
  fitting _ := True
  ends _ := True

theorem group_readBy (room : Nat) : group.ReadBy (Parser.group room) := by
  have part : ((name.separated .comma).andThen fun names =>
      (typeName.map fun t => names.map (Declaration.mk · t)).opened (.mark .colon)).Part group
        fun d => ⟨d.1.1, d.1.2, d.2⟩ := by
    refine ⟨fun d => ?_, fun d => ?_, fun _ => ?_, fun _ _ _ => trivial⟩
    · simp [group, DeclarationGroup.lexemes, Phrase.separated, Phrase.andThen, Phrase.opened, name,
        Phrase.map, typeName]
    · simp [group, DeclarationGroup.declarations, Phrase.separated, Phrase.andThen, Phrase.opened, name,
        Phrase.map, typeName]
    · simp [group, Phrase.separated, Phrase.andThen, Phrase.opened, name, Phrase.map, typeName]
  have readsType (names : List String) : (typeName.map fun t => names.map (Declaration.mk · t)).ReadBy
      (do
        let t ← Parser.typeName
        enter room (.group names t)
        return names.map fun name => ⟨name, t⟩) := fun s =>
    (typeName_readBy s).map fun _ s' => ⟨_, rfl⟩
  intro s
  refine part.readAt ?_ fun g _ => ⟨((g.first, g.others), g.typeName), rfl⟩
  exact (name_readBy.separated trivial ⟨""⟩ s).andThen
    (fun names s' _ => .opened (readsType names) (exactly_readBy rfl (by simp) s') ⟨.integer⟩)
    ⟨.integer⟩ fun _ _ l (begins : .mark .colon = l) => begins ▸ ⟨by simp [Lexeme.kind], trivial⟩

-- A section of declarations takes a level of its own if it is there at all.
def declarations (room : Nat) : Phrase (List DeclarationGroup) (List Declaration) where
  lexemes := DeclarationGroup.sectionLexemes
  value groups := groups.flatMap DeclarationGroup.declarations
  fitting groups := groups ≠ [] → 0 < room
  ends k := k = .keyword .blockBegin

def groupItem : Phrase DeclarationGroup (List Declaration) :=
  (group.map id).closed (.mark .semicolon)

def groupItems : Phrase (DeclarationGroup × List DeclarationGroup) (List Declaration) :=
  (groupItem.andThen fun first =>
    (groupItem.many (· == .identifier)).map fun others => first ++ others.flatten)

theorem groupItems_part (room : Nat) :
    (groupItems.opened (.keyword .var)).Part (declarations (room + 1)) fun d => d.1 :: d.2 where
  lexemes d := by
    simp [declarations, groupItems, groupItem, DeclarationGroup.sectionLexemes, Phrase.opened,
      Phrase.andThen, Phrase.many, Phrase.map, Phrase.closed, group]
  value d := by
    simp [declarations, groupItems, groupItem, Phrase.opened, Phrase.andThen, Phrase.many, Phrase.map,
      Phrase.closed, group, List.flatMap_def]
  fitting d := by
    simp [declarations, groupItems, groupItem, Phrase.opened, Phrase.andThen, Phrase.many, Phrase.map,
      Phrase.closed, group]
  ends k h := by
    obtain rfl : k = .keyword .blockBegin := h
    exact fun _ => ⟨rfl, trivial⟩

theorem groupItem_repeats : groupItem.Repeats (· == .identifier) :=
  ⟨fun _ => ⟨_, _, rfl, rfl⟩, fun _ => trivial, rfl⟩

theorem groupItems_readBy (room : Nat) :
    groupItems.ReadBy (Parser.groupItems room) := by
  have item : groupItem.ReadBy (Parser.groupItem room) :=
    (group_readBy room).closed rfl (by simp) trivial id
  intro s
  refine (item s).andThen (fun first s' _ => ?_) ⟨[]⟩ fun _ _ _ _ => trivial
  exact (item.many groupItem_repeats s').map fun _ s' => ⟨s'.log, rfl⟩

theorem declarations_begins {room : Nat} {groups : List DeclarationGroup} {l : Lexeme}
    (begins : (declarations room).Begins groups l) : l.kind = .keyword .var ↔ groups ≠ [] := by
  cases groups with
  | nil =>
    have isBegin : l.kind = .keyword .blockBegin := begins
    simp [isBegin]
  | cons g groups =>
    obtain rfl : .keyword .var = l := begins
    simp [Lexeme.kind]

theorem declarations_readBy (room : Nat) : (declarations room).ReadBy (Parser.declarations room) := by
  intro s
  have kind := s.stream.kind_lexeme
  by_cases isVar : s.stream.kind = .keyword .var
  next =>
    cases room with
    | zero =>
      refine .congr (y := tooDeep) ?_ (tooDeep_readAt fun groups begins fitting => ?_)
      · unfold Parser.declarations
        rw [current_bind, if_pos isVar]
      · exact Nat.lt_irrefl 0 (fitting ((declarations_begins begins).1 (kind.trans isVar)))
    | succ room =>
      refine .congr ?_ ((groupItems_part room).readAt (.enter room .declarations fun s =>
        .opened (groupItems_readBy room) (exactly_readBy rfl (by simp) s) ⟨⟨"", [], .integer⟩, []⟩)
        fun groups begins => ?_)
      · unfold Parser.declarations
        rw [current_bind, if_pos isVar]
        rfl
      cases groups with
      | nil => exact absurd rfl ((declarations_begins begins).1 (kind.trans isVar))
      | cons g groups => exact ⟨(g, groups), rfl⟩
  next =>
    have part : (nothing ([] : List Declaration)).Part (declarations room) fun _ => [] :=
      ⟨fun _ => rfl, fun _ => rfl, fun _ => iff_of_true (fun h => absurd rfl h) trivial,
        fun _ _ => trivial⟩
    refine .congr ?_ (part.readAt (nothing_readBy _ s) fun groups begins => ⟨(), ?_⟩)
    · unfold Parser.declarations
      rw [current_bind, if_neg isVar]
    cases groups with
    | nil => rfl
    | cons g groups => exact absurd (kind ▸ (declarations_begins begins).2 (by simp)) isVar

end Declarations

section Programs

theorem block_readBy (room : Nat) : (of .block room).ReadBy (Parser.block room) := by
  cases room with
  | zero => exact tooDeep_readBy fun d => by cases d; simp
  | succ room =>
    have part : ((declarations room).andThen fun declared =>
        (of .compound room).map fun body => (declared, body)).Part (of .block (room + 1))
          fun d => .block d.1 d.2 := by
      refine ⟨fun _ => rfl, fun _ => rfl, fun d => ?_, fun _ _ _ => trivial⟩
      have pos := Derivation.depth_compound_pos d.2
      simp only [of, declarations, Phrase.andThen, Phrase.map, Derivation.depth]
      omega
    intro s
    refine part.readAt (.enter _ _ fun s => ?_) fun d _ => ?_
    · refine (declarations_readBy room s).andThen (fun declared s' _ => ?_)
        ⟨.compound .empty .noStatements⟩ fun _ body l begins => ?_
      · exact (compound_readBy room s').map fun _ s' => ⟨s'.log, rfl⟩
      · cases body
        obtain rfl : .keyword .blockBegin = l := begins
        rfl
    · cases d with
      | block groups body => exact ⟨(groups, body), rfl⟩

theorem program_readBy (room : Nat) : (of .program room).ReadBy (Parser.program room) := by
  cases room with
  | zero => exact tooDeep_readBy fun d => by cases d; simp
  | succ room =>
    have part : ((name.andThen fun title => (((of .block room).map fun content =>
        Program.mk title content.1 content.2).closed (.mark .dot)).opened (.mark .semicolon)).opened
          (.keyword .program)).Part (of .program (room + 1)) fun d => .program d.1 d.2 :=
      ⟨fun _ => rfl, fun _ => rfl,
        fun _ => ⟨fun h => ⟨trivial, Nat.le_of_succ_le_succ h⟩, fun h => Nat.succ_le_succ h.2⟩,
        fun _ _ _ => trivial⟩
    have inhabited : Nonempty (Derivation .block) := ⟨.block [] (.compound .empty .noStatements)⟩
    have readsContent (title : String) : (((of .block room).map fun content =>
        Program.mk title content.1 content.2).closed (.mark .dot)).ReadBy
          (do
            let content ← Parser.block room
            eatMark .dot
            return ⟨title, content.1, content.2⟩) :=
      (block_readBy room).closed rfl (by simp) trivial _
    have readsTitle : (name.andThen fun title => (((of .block room).map fun content =>
        Program.mk title content.1 content.2).closed (.mark .dot)).opened (.mark .semicolon)).ReadBy
          (do
            let title ← Parser.name
            enter room (.program title)
            eatMark .semicolon
            let content ← Parser.block room
            eatMark .dot
            return ⟨title, content.1, content.2⟩) := fun s =>
      (name_readBy s).andThen (fun title s' _ => .enter _ _ fun s => .opened (readsContent title)
        (exactly_readBy rfl (by simp) s) inhabited) inhabited fun _ _ _ _ => trivial
    intro s
    refine part.readAt ?_ fun d _ => ?_
    · obtain ⟨content⟩ := inhabited
      exact .opened readsTitle (exactly_readBy rfl (by simp) s) ⟨("", content)⟩
    · cases d with
      | program title content => exact ⟨(title, content), rfl⟩

end Programs

end Phrase

end MiniPascal
