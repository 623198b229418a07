import MiniPascal.Proofs.Parser.Blame
import MiniPascal.Proofs.Parser.Steady
import MiniPascal.Proofs.Token.Settling

set_option autoImplicit false

namespace MiniPascal

namespace Parser

open TokenStream (Supplied)

namespace Steady

theorem chain {operator? : TokenKind → Option BinaryOp} (noEnd : operator? .endOfInput = none)
    (left : Expr) {longer : BinaryOp → Parser Expr}
    (steady : ∀ k op, k ≠ .endOfInput → SteadyAt k (longer op)) :
    Steady (do
      match operator? (← current) with
      | none => return left
      | some op => longer op) := by
  refine current_bind fun k => ?_
  cases found : operator? k with
  | none => exact .pure left
  | some op =>
    refine steady k op fun atEnd => ?_
    rw [atEnd, noEnd] at found
    cases found

theorem literal_notEnd {stream : TokenStream} {value : Number} (found : literal? stream = some value) :
    stream.kind ≠ .endOfInput := by
  cases stream with
  | ended position | broken e => cases found
  | next token rest =>
    intro atEnd
    obtain ⟨lexeme, position⟩ := token
    cases lexeme with
    | endOfInput => cases found
    | _ => cases atEnd

theorem parens {expr : Parser Expr} (steady : Steady expr) : Steady (Parser.parens expr) :=
  (eatMark _).bind fun _ => steady.bind fun _ => (eatMark _).bind fun _ => pure _

section Operand

variable {factor expr : Parser Expr}

theorem operandAt (steadyFactor : Steady factor) (steadyExpr : Steady expr) {k : TokenKind}
    {sign : Option UnaryOp} {value : Option Number}
    (notEnd : sign.isSome ∨ value.isSome → k ≠ .endOfInput) :
    SteadyAt k (Parser.operandAt factor expr k sign value) := by
  cases sign with
  | some op =>
    exact (SteadyAt.advance (notEnd (.inl rfl))).bind fun _ => steadyFactor.bind fun _ => pure _
  | none =>
    cases value with
    | some value => exact (SteadyAt.advance (notEnd (.inr rfl))).bind fun _ => pure _
    | none => exact steadyExpr.parens.ite (name.bind fun _ => pure _) k

theorem operand (steadyFactor : Steady factor) (steadyExpr : Steady expr) :
    Steady (Parser.operand factor expr) := by
  have current (s : ParserState) : SteadyAt s.stream.kind
      (Parser.operandAt factor expr s.stream.kind (sign? s.stream.kind) (literal? s.stream)) := by
    refine operandAt steadyFactor steadyExpr ?_
    rintro (signed | valued)
    · intro atEnd
      rw [atEnd] at signed
      cases signed
    · obtain ⟨value, found⟩ := Option.isSome_iff_exists.1 valued
      exact literal_notEnd found
  refine fun k => ⟨fun {s} here readable => ?_, fun {far more s s'} here supplied => ?_⟩
  · exact (current s).onward rfl readable
  · rw [Parser.operand, Phrase.get_bind, Phrase.get_bind, supplied.kind, supplied.literal]
    exact (current s).inStep rfl supplied

end Operand

end Steady

structure ExpressionsSteady (room : Nat) : Prop where
  expr : Steady (expr room)
  exprRest : ∀ left, Steady (exprRest room left)
  term : Steady (term room)
  termRest : ∀ left, Steady (termRest room left)
  factor : Steady (factor room)

theorem expressionsSteady (room : Nat) : ExpressionsSteady room := by
  induction room with
  | zero =>
    exact {
      expr := .tooDeep
      exprRest left := .chain rfl left fun _ _ _ => .tooDeep
      term := .tooDeep
      termRest left := .chain rfl left fun _ _ _ => .tooDeep
      factor := .tooDeep }
  | succ room ih =>
    exact {
      expr := (Steady.enter _ _).bind fun _ => ih.term.bind ih.exprRest
      exprRest left := .chain rfl left fun _ _ notEnd =>
        (SteadyAt.advance notEnd).bind fun _ => ih.term.bind fun _ => ih.exprRest _
      term := (Steady.enter _ _).bind fun _ => ih.factor.bind ih.termRest
      termRest left := .chain rfl left fun _ _ notEnd =>
        (SteadyAt.advance notEnd).bind fun _ => ih.factor.bind fun _ => ih.termRest _
      factor := (Steady.enter _ _).bind fun _ => .operand ih.factor ih.expr }

namespace Steady

theorem assignment (room : Nat) : Steady (Parser.assignment room) := by
  cases room with
  | zero => exact tooDeep
  | succ room =>
    have expr := (expressionsSteady room).expr
    exact name.bind fun _ => (enter _ _).bind fun _ => (eatMark _).bind fun _ =>
      expr.bind fun _ => pure _

theorem statement {compound : Parser (List Statement)} (steady : Steady compound) (room : Nat) :
    Steady (Parser.statement compound room) := by
  refine current_bind fun k => ?_
  split
  next => exact steady.bind (fun _ => pure _) _
  next => exact assignment room _
  next => exact (enter room .noOp).bind (fun _ => pure _) _

theorem compound (room : Nat) : Steady (Parser.compound room) := by
  induction room with
  | zero => exact tooDeep
  | succ room ih =>
    exact (enter _ _).bind fun _ => (eatKeyword _).bind fun _ =>
      ((statement ih room).separated _).bind fun _ => (eatKeyword _).bind fun _ => pure _

theorem typeName : Steady Parser.typeName := by
  refine current_bind fun k => ite ?_ ?_ k
  · exact (eatKeyword _).bind fun _ => pure _
  · exact (eatKeyword _).bind fun _ => pure _

theorem group (room : Nat) : Steady (Parser.group room) :=
  (name.separated _).bind fun _ => (eatMark _).bind fun _ => typeName.bind fun _ =>
    (enter _ _).bind fun _ => pure _

theorem takes_group (room : Nat) : Takes (Parser.group room) :=
  (Takes.name.separated name _).bind fun _ => (eatMark _).bind fun _ => typeName.bind fun _ =>
    (enter _ _).bind fun _ => pure _

theorem groupItem (room : Nat) : Steady (Parser.groupItem room) :=
  (group room).bind fun _ => (eatMark _).bind fun _ => pure _

theorem takes_groupItem (room : Nat) : Takes (Parser.groupItem room) :=
  (takes_group room).bind fun _ => (eatMark _).bind fun _ => pure _

theorem declarations (room : Nat) : Steady (Parser.declarations room) := by
  refine current_bind fun k => ite ?_ (pure _) k
  cases room with
  | zero => exact tooDeep
  | succ room =>
    have item := groupItem room
    have takes := takes_groupItem room
    exact (enter _ _).bind fun _ => (eatKeyword _).bind fun _ =>
      item.bind fun _ => (item.many takes rfl).bind fun _ => pure _

theorem block (room : Nat) : Steady (Parser.block room) := by
  cases room with
  | zero => exact tooDeep
  | succ room =>
    exact (enter _ _).bind fun _ => (declarations room).bind fun _ =>
      (compound room).bind fun _ => pure _

theorem program (room : Nat) : Steady (Parser.program room) := by
  cases room with
  | zero => exact tooDeep
  | succ room =>
    exact (eatKeyword _).bind fun _ => name.bind fun _ => (enter _ _).bind fun _ =>
      (eatMark _).bind fun _ => (block room).bind fun _ => (eatMark _).bind fun _ => pure _

theorem finish (p : Program) : Steady (Parser.finish p) :=
  current_bind fun k => ite ((report rfl).bind fun _ => pure p) (unexpected _) k

end Steady

def verdict : EStateM.Result ParseError ParserState Program → Except Error Program
  | .ok p _ => .ok p
  | .error e _ => .error (.parse e)

def stop : EStateM.Result ParseError ParserState Program → ParserState
  | .ok _ s | .error _ s => s

theorem Onward.follows {s : ParserState} {result : EStateM.Result ParseError ParserState Program}
    (onward : Onward s result) : Follows s (stop result) := by
  cases result <;> exact onward.1

theorem Onward.verdict_of_broken {s : ParserState} {e : LexError}
    {result : EStateM.Result ParseError ParserState Program} (onward : Onward s result)
    (isBroken : .broken e = s.stream) : verdict result = .error (.parse (.lexical e)) := by
  obtain ⟨read, suffix⟩ := onward.follows.suffix
  have stuck : (stop result).stream = .broken e :=
    TokenStream.eq_of_broken_prepend (isBroken.trans suffix)
  cases result with
  | ok p s' =>
    have readable : s'.stream.Readable := onward.2
    rw [show s'.stream = .broken e from stuck] at readable
    cases readable
  | error e' s' =>
    rw [onward.2 e stuck]
    rfl

/-- The results that settle what the parser says. A lexer that hands them out may go on as it likes, and
the error of one that fails before it has handed out all of them is what the parser fails with. -/
def AsksFor (pulled : List (Except LexError Token)) (said : Except Error Program) : Prop :=
  (∀ more s, verdict (source (.supply more pulled) s) = said) ∧
    ∀ front, front <+: pulled → front ≠ pulled →
      ∀ e s, verdict (source (.supply (.broken e) front) s) = .error (.parse (.lexical e))

section Source

variable {stream stream' more : TokenStream} {far : Option TokenStream}

theorem steady_program_finish : Steady (do finish (← program maxDepth)) :=
  (Steady.program _).bind .finish

theorem source_onward (stream : TokenStream) (s : ParserState) :
    ∃ t : ParserState, t.stream = stream ∧
      t.traced ++ stream.tokens.tail = s.traced ++ stream.tokens ∧ Onward t (source stream s) := by
  obtain ⟨t, here, traced, arrived⟩ := arrive_onward stream s
  exact ⟨t, here, traced, arrived.bind fun _ s' _ => steady_program_finish.onward s'⟩

theorem source_inStep (supplied : Supplied far more stream stream') (s s' : ParserState) :
    InStep far more (source stream s) (source stream' s') :=
  (arrive_inStep supplied s s').bind (fun _ _ _ _ _ => steady_program_finish.inStep)
    (fun _ => steady_program_finish.onward) fun _ => steady_program_finish.onward

-- Where the first run stops, it has not gone on to where the streams part.
theorem verdict_of_supplied {s : ParserState}
    (supplied : Supplied (stop (source stream s)).stream.behind more stream stream')
    (s' : ParserState) : verdict (source stream' s') = verdict (source stream s) := by
  have inStep := source_inStep supplied s s'
  generalize source stream s = r at inStep ⊢
  generalize source stream' s' = r' at inStep ⊢
  cases inStep with
  | ok _ | error _ => rfl
  | parted isFar _ here _ =>
    have shorter := TokenStream.length_behind isFar
    exact absurd here.follows.length_le (Nat.not_le_of_lt shorter)

-- It has gone on to where it stops, and so has the other run, but there is nothing to go on with.
theorem verdict_of_broken {s : ParserState} {front rest : List Token}
    (split : stream = (stop (source stream s)).stream.prepend (front ++ rest)) (e : LexError)
    (s' : ParserState) :
    verdict (source ((TokenStream.broken e).prepend front) s') = .error (.parse (.lexical e)) := by
  cases front with
  | nil => rfl
  | cons token front =>
    rw [TokenStream.prepend_append] at split
    have supplied := TokenStream.supplied_prepend (.broken e)
      ((stop (source stream s)).stream.prepend rest) (List.cons_ne_nil token front)
    rw [← split] at supplied
    have inStep := source_inStep supplied s s'
    generalize source stream s = r at inStep
    generalize source ((TokenStream.broken e).prepend (token :: front)) s' = r' at inStep ⊢
    cases inStep with
    | ok further | error further =>
      have shorter := further.length_lt
      rw [TokenStream.length_prepend] at shorter
      exact absurd shorter (Nat.not_lt_of_le (Nat.le_add_left _ _))
    | parted _ isBroken _ there => exact there.verdict_of_broken isBroken

theorem asksFor_pulled {s : ParserState} {read : List Token}
    (split : stream = (stop (source stream s)).stream.prepend read) :
    AsksFor ((stop (source stream s)).stream.pulled read) (verdict (source stream s)) := by
  constructor
  · intro more s'
    have supplied := TokenStream.supplied_supply more (stop (source stream s)).stream read
    rw [← split] at supplied
    exact verdict_of_supplied supplied s'
  · intro front starts notAll e s'
    rcases List.prefix_concat_iff.1 starts with all | shorter
    · exact absurd all notAll
    · obtain ⟨front, ⟨rest, rfl⟩, rfl⟩ := List.prefix_map_iff.1 shorter
      rw [TokenStream.supply_tokens]
      exact verdict_of_broken split e s'

theorem verdict_ok {s : ParserState} {p : Program} (proper : stream.Proper)
    (said : verdict (source stream s) = .ok p) :
    ∃ position, (stop (source stream s)).stream = .ended position := by
  obtain ⟨t, rfl, -, onward⟩ := source_onward stream s
  obtain ⟨read, split⟩ := onward.follows.suffix
  cases ran : source t.stream s with
  | error e s' =>
    rw [ran] at said
    cases said
  | ok q s' =>
    rw [ran] at onward split
    rw [split] at proper
    exact proper.of_prepend.eq_ended onward.2 (source_ok_atEnd ran)

theorem verdict_error {s : ParserState} {e : ParseError}
    (said : verdict (source stream s) = .error (.parse e)) :
    ∃ language : Language (Derivation .program),
      Blames (·.depth ≤ maxDepth) language (stop (source stream s)).stream e := by
  cases ran : source stream s with
  | ok p s' =>
    rw [ran] at said
    cases said
  | error e' s' =>
    rw [ran] at said
    cases said
    obtain ⟨read, -, blames⟩ := source_error ran
    exact ⟨_, blames⟩

theorem source_traced (stream : TokenStream) (text : String) :
    ∃ read, stream = (stop (source stream ⟨stream, [.lexing text]⟩)).stream.prepend read ∧
      (stop (source stream ⟨stream, [.lexing text]⟩)).traced =
        read ++ (stop (source stream ⟨stream, [.lexing text]⟩)).stream.tokens.take 1 := by
  obtain ⟨t, rfl, traced, onward⟩ := source_onward stream ⟨stream, [.lexing text]⟩
  have follows := onward.follows
  generalize stop (source t.stream ⟨t.stream, [.lexing text]⟩) = last at follows ⊢
  obtain ⟨read, split⟩ := follows.suffix
  have all : last.traced ++ last.stream.tokens.tail = t.stream.tokens := follows.traced.trans traced
  have parts : read ++ last.stream.tokens.take 1 ++ last.stream.tokens.tail = t.stream.tokens := by
    rw [split, TokenStream.tokens_prepend, List.append_assoc, ← List.drop_one, List.take_append_drop]
  exact ⟨read, split, List.append_cancel_right (all.trans parts.symm)⟩

end Source

end Parser

def properToken? : Except LexError Token → Option Token
  | .ok token => if token.kind = .endOfInput then none else some token
  | .error _ => none

namespace TokenStream

variable {stream : TokenStream} {read : List Token}

theorem head_of_readable (readable : stream.Readable) :
    ∃ token, stream.head = .ok token ∧ token.kind = stream.kind ∧ token.position = stream.position := by
  cases stream with
  | ended position => exact ⟨⟨.endOfInput, position⟩, rfl, rfl, rfl⟩
  | next token rest => exact ⟨token, rfl, rfl, rfl⟩
  | broken e => cases readable

theorem pulled_prefix (read : List Token) (stream : TokenStream) :
    ∃ rest, (stream.prepend read).toList = stream.pulled read ++ rest ∧
      ∀ position, stream = .ended position → rest = [] := by
  rw [toList_prepend, pulled]
  cases stream with
  | ended position => exact ⟨[], by simp [toList, head], fun _ _ => rfl⟩
  | broken e => exact ⟨[], by simp [toList, head], fun _ same => by cases same⟩
  | next token rest => exact ⟨rest.toList, by simp [toList, head], fun _ same => by cases same⟩

theorem properTokens_map {tokens : List Token}
    (proper : ∀ token ∈ tokens, token.kind ≠ .endOfInput) :
    (tokens.map .ok).filterMap properToken? = tokens := by
  induction tokens with
  | nil => rfl
  | cons token tokens ih =>
    obtain ⟨notEnd, properBehind⟩ := List.forall_mem_cons.1 proper
    have isProper : properToken? (.ok token) = some token := if_neg notEnd
    rw [List.map_cons, List.filterMap_cons_some isProper, ih properBehind]

theorem properTokens_pulled (proper : (stream.prepend read).Proper) :
    (stream.pulled read).filterMap properToken? = read ++ stream.tokens.take 1 := by
  rw [Proper, tokens_prepend, List.forall_mem_append] at proper
  rw [pulled, List.filterMap_append, properTokens_map proper.1]
  cases stream with
  | ended position | broken e => rfl
  | next token rest =>
    have isProper : properToken? (.ok token) = some token :=
      if_neg (List.forall_mem_cons.1 proper.2).1
    rw [head, List.filterMap_cons_some isProper]
    rfl

end TokenStream

section Parse

open MiniPascal.Parser

theorem result_parse (text : String) : (Stage.parse text).result =
    verdict (source (.ofSource text) ⟨.ofSource text, [.lexing text]⟩) := by
  simp only [Stage.parse]
  split <;> next ran => rw [ran]; rfl

theorem traced_parse (text : String) : (Stage.parse text).log.filterMap Event.token? =
    (stop (source (.ofSource text) ⟨.ofSource text, [.lexing text]⟩)).traced := by
  simp only [Stage.parse]
  split <;> next ran => rw [ran]; rfl

theorem traced_lexingLog (text : String) :
    (Stage.lexingLog text).filterMap Event.token? = (TokenStream.ofSource text).tokens := by
  rw [Stage.lexingLog, List.filterMap_cons_none rfl, List.filterMap_map]
  exact List.filterMap_some

theorem parse_stops (text : String) : ∃ (read : List Token) (here : TokenStream),
    TokenStream.ofSource text = here.prepend read ∧
    AsksFor (here.pulled read) (Stage.parse text).result ∧
    (Stage.parse text).log.filterMap Event.token? = read ++ here.tokens.take 1 ∧
    (∀ p, (Stage.parse text).result = .ok p → ∃ position, here = .ended position) ∧
    ∀ e, (Stage.parse text).result = .error (.parse e) →
      ∃ language : Language (Derivation .program), Blames (·.depth ≤ maxDepth) language here e := by
  rw [result_parse, traced_parse]
  obtain ⟨read, split, traced⟩ := source_traced (.ofSource text) text
  exact ⟨read, _, split, asksFor_pulled split, traced,
    fun p => verdict_ok (TokenStream.proper_ofSource text), fun e => verdict_error⟩

/-- The parser pulls the results of the first calls of the lexer, in order: those that settle what it
says, and no others. They are one more than the characters of the source at most, and all that the lexer
yields if there is a program. Only the last may be the end of the input or an error; an unexpected token
is the last one. The tokens that are reported are those that were pulled, so lexing alone starts with
them. -/
theorem parse_pulls_as_needed (text : String) :
    ∃ pulled : List (Except LexError Token),
      AsksFor pulled (Stage.parse text).result ∧
      pulled.length ≤ text.length + 1 ∧
      pulled = (List.range pulled.length).map (Lexer.ofSource text).tokenAt ∧
      (∃ rest, (Lexer.ofSource text).Yields (pulled ++ rest) ∧
        ∀ p, (Stage.parse text).result = .ok p → rest = []) ∧
      (∀ result ∈ pulled.dropLast, Lexer.isLast result = false) ∧
      (∀ expected found position,
        (Stage.parse text).result = .error (.parse (.unexpected expected found position)) →
        ∃ token, pulled.getLast? = some (.ok token) ∧ token.kind = found ∧
          token.position = position) ∧
      (∀ e, (Stage.parse text).result = .error (.parse (.lexical e)) →
        pulled.getLast? = some (.error e)) ∧
      (Stage.parse text).log.filterMap Event.token? = pulled.filterMap properToken? ∧
      (Stage.parse text).log.filterMap Event.token? <+:
        (Stage.lexingLog text).filterMap Event.token? := by
  obtain ⟨read, here, split, asks, traced, ended, blames⟩ := parse_stops text
  obtain ⟨rest, parts, nothing⟩ := here.pulled_prefix read
  have proper := TokenStream.proper_ofSource text
  have reported := traced_lexingLog text
  rw [split] at proper reported
  have tokens := proper
  rw [TokenStream.Proper, TokenStream.tokens_prepend, List.forall_mem_append] at tokens
  refine ⟨here.pulled read, asks, ?_, ?_, ⟨rest, ?_, ?_⟩, ?_, ?_, ?_, ?_, ?_⟩
  · have few := TokenStream.tokens_ofSource_le text
    rw [split, TokenStream.tokens_prepend, List.length_append] at few
    simp only [TokenStream.pulled, List.length_append, List.length_map, List.length_singleton]
    omega
  · exact Lexer.eq_map_tokenAt (split ▸ parts)
  · rw [Lexer.yields_iff, split, parts]
  · intro p accepted
    obtain ⟨position, atEnd⟩ := ended p accepted
    exact nothing position atEnd
  · intro result among
    rw [TokenStream.pulled, List.dropLast_concat] at among
    obtain ⟨token, wasRead, rfl⟩ := List.mem_map.1 among
    exact beq_eq_false_iff_ne.2 (tokens.1 token wasRead)
  · intro expected found position failed
    obtain ⟨language, readable, rfl, rfl, -⟩ := blames _ failed
    obtain ⟨token, isHead, kind, place⟩ := TokenStream.head_of_readable readable
    exact ⟨token, by rw [TokenStream.pulled, List.getLast?_concat, isHead], kind, place⟩
  · intro e failed
    obtain ⟨language, rfl, -⟩ := blames _ failed
    exact List.getLast?_concat
  · rw [traced, TokenStream.properTokens_pulled proper]
  · rw [traced, reported, TokenStream.tokens_prepend]
    exact (List.prefix_append_right_inj read).2 (List.take_prefix 1 _)

end Parse

end MiniPascal
