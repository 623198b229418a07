import MiniPascal.Stage
import MiniPascal.Proofs.Parser.Expressions
import MiniPascal.Proofs.Token.Layout

set_option autoImplicit false

namespace MiniPascal

def ParseError.unplaced : ParseError → ParseError
  | .lexical error => .lexical { error with position := .start }
  | .unexpected expected found _ => .unexpected expected found .start
  | .tooDeep limit => .tooDeep limit

namespace TokenStream

inductive Alike : TokenStream → TokenStream → Prop where
  | ended {here there : Position} : Alike (.ended here) (.ended there)
  | broken {fault : LexFault} {here there : Position} :
      Alike (.broken ⟨fault, here⟩) (.broken ⟨fault, there⟩)
  | next {l : Lexeme} {here there : Position} {rest rest' : TokenStream} (more : Alike rest rest') :
      Alike (.next ⟨l, here⟩ rest) (.next ⟨l, there⟩ rest')

namespace Alike

variable {stream stream' : TokenStream}

theorem kind (alike : stream.Alike stream') : stream.kind = stream'.kind := by
  cases alike <;> rfl

theorem literal (alike : stream.Alike stream') : Parser.literal? stream = Parser.literal? stream' := by
  cases alike <;> rfl

theorem length (alike : stream.Alike stream') : stream.length = stream'.length := by
  induction alike with
  | ended | broken => rfl
  | next more ih => exact congrArg (· + 1) ih

theorem of_tokens {these those : List Token} (same : these.map Token.lexeme = those.map Token.lexeme)
    (here there : Position) : ((TokenStream.ended here).prepend these).Alike
      ((TokenStream.ended there).prepend those) := by
  induction these generalizing those with
  | nil =>
    obtain rfl : those = [] := List.map_eq_nil_iff.1 same.symm
    exact .ended
  | cons token rest ih =>
    obtain ⟨⟨l, place⟩, rest', rfl, rfl, sameRest⟩ := List.map_eq_cons_iff.1 same.symm
    exact .next (ih sameRest.symm)

end Alike

end TokenStream

namespace Parser

variable {α β : Type}

inductive SameOutcome :
    EStateM.Result ParseError ParserState α → EStateM.Result ParseError ParserState α → Prop where
  | ok {a : α} {s s' : ParserState} (alike : s.stream.Alike s'.stream) :
      SameOutcome (.ok a s) (.ok a s')
  | error {e e' : ParseError} {s s' : ParserState} (same : e.unplaced = e'.unplaced) :
      SameOutcome (.error e s) (.error e' s')

theorem SameOutcome.bind {x y : Parser α} {f g : α → Parser β} {s s' : ParserState}
    (first : SameOutcome (x s) (y s'))
    (second : ∀ a t t', t.stream.Alike t'.stream → SameOutcome (f a t) (g a t')) :
    SameOutcome ((x >>= f) s) ((y >>= g) s') := by
  generalize ran : x s = r at first
  generalize ran' : y s' = r' at first
  cases first with
  | ok alike =>
    rw [bind_of_ok ran, bind_of_ok ran']
    exact second _ _ _ alike
  | error same =>
    rw [bind_of_error ran, bind_of_error ran']
    exact .error same

theorem arrive_sameOutcome {stream stream' : TokenStream} (alike : stream.Alike stream')
    (s s' : ParserState) : SameOutcome (arrive stream s) (arrive stream' s') := by
  cases alike with
  | ended => exact .ok .ended
  | broken => exact .error rfl
  | next more => exact .ok (.next more)

def Blind (x : Parser α) : Prop :=
  ∀ s s', s.stream.Alike s'.stream → SameOutcome (x s) (x s')

namespace Blind

theorem pure (a : α) : Blind (Pure.pure a : Parser α) :=
  fun _ _ alike => .ok alike

theorem bind {x : Parser α} {f : α → Parser β} (first : Blind x) (second : ∀ a, Blind (f a)) :
    Blind (x >>= f) :=
  fun s s' alike => (first s s' alike).bind fun a t t' => second a t t'

theorem ite {x y : Parser α} {c : Prop} [Decidable c] (yes : Blind x) (no : Blind y) :
    Blind (if c then x else y) := by
  split
  next => exact yes
  next => exact no

theorem enter (room : Nat) (production : Production) : Blind (Parser.enter room production) :=
  fun _ _ alike => .ok alike

theorem tooDeep : Blind (Parser.tooDeep : Parser α) :=
  fun _ _ _ => .error rfl

theorem current : Blind Parser.current := by
  intro s s' alike
  have same : Parser.current s' = .ok s.stream.kind s' :=
    congrArg (EStateM.Result.ok · s') alike.kind.symm
  rw [same]
  exact .ok alike

theorem unexpected (expected : TokenKind) : Blind (Parser.unexpected expected : Parser α) :=
  fun _ _ alike => .error (congrArg (ParseError.unexpected expected · .start) alike.kind)

theorem advance : Blind Parser.advance := by
  rintro ⟨stream, log⟩ ⟨stream', log'⟩ alike
  cases alike with
  | ended => exact .ok .ended
  | broken => exact .error rfl
  | next more => exact arrive_sameOutcome more _ _

theorem eat (expected : TokenKind) : Blind (Parser.eat expected) :=
  current.bind fun _ => advance.ite (unexpected expected)

theorem name : Blind Parser.name := by
  intro s s' alike
  by_cases here : s.stream.kind = .identifier
  next =>
    obtain ⟨stream, log⟩ := s
    obtain ⟨stream', log'⟩ := s'
    cases alike with
    | ended | broken => cases here
    | next more =>
      obtain ⟨x, rfl⟩ := Lexeme.eq_identifier_of_kind here
      exact (arrive_sameOutcome more _ _).bind fun _ => pure x
  next =>
    rw [Phrase.name_eq_unexpected here, Phrase.name_eq_unexpected (alike.kind ▸ here)]
    exact unexpected .identifier s s' alike

section Many

variable {more : TokenKind → Bool} {item : Parser α}

theorem manyUpTo (blind : Blind item) (fuel : Nat) (taken : List α) :
    Blind (Parser.manyUpTo more item fuel taken) := by
  induction fuel generalizing taken with
  | zero => exact pure _
  | succ fuel ih => exact current.bind fun _ => (blind.bind fun a => ih (a :: taken)).ite (pure _)

theorem many (blind : Blind item) : Blind (Parser.many more item) := by
  intro s s' alike
  rw [Parser.many, Phrase.get_bind, Phrase.get_bind, ← alike.length]
  exact blind.manyUpTo _ _ s s' alike

theorem separated (blind : Blind item) (mark : Mark) : Blind (Parser.separated mark item) :=
  blind.bind fun _ => (many ((eat (.mark mark)).bind fun _ => blind)).bind fun _ => pure _

end Many

theorem chain (operator? : TokenKind → Option BinaryOp) (left : Expr) {longer : BinaryOp → Parser Expr}
    (blind : ∀ op, Blind (longer op)) :
    Blind (do
      match operator? (← Parser.current) with
      | none => return left
      | some op => longer op) := by
  refine current.bind fun k => ?_
  cases operator? k with
  | none => exact pure left
  | some op => exact blind op

theorem operand {factor expr : Parser Expr} (blindFactor : Blind factor) (blindExpr : Blind expr) :
    Blind (Parser.operand factor expr) := by
  intro s s' alike
  rw [Parser.operand, Phrase.get_bind, Phrase.get_bind, ← alike.kind, ← alike.literal]
  cases sign? s.stream.kind with
  | some op => exact (advance.bind fun _ => blindFactor.bind fun _ => pure _) s s' alike
  | none =>
    cases literal? s.stream with
    | some value => exact (advance.bind fun _ => pure _) s s' alike
    | none =>
      have parens : Blind (Parser.parens expr) :=
        (eat _).bind fun _ => blindExpr.bind fun _ => (eat _).bind fun _ => pure _
      exact parens.ite (name.bind fun _ => pure _) s s' alike

end Blind

structure ExpressionsBlind (room : Nat) : Prop where
  expr : Blind (expr room)
  exprRest : ∀ left, Blind (exprRest room left)
  term : Blind (term room)
  termRest : ∀ left, Blind (termRest room left)
  factor : Blind (factor room)

theorem expressionsBlind (room : Nat) : ExpressionsBlind room := by
  induction room with
  | zero =>
    exact {
      expr := .tooDeep
      exprRest left := .chain additive? left fun _ => .tooDeep
      term := .tooDeep
      termRest left := .chain multiplicative? left fun _ => .tooDeep
      factor := .tooDeep }
  | succ room ih =>
    exact {
      expr := (Blind.enter _ _).bind fun _ => ih.term.bind ih.exprRest
      exprRest left := .chain additive? left fun _ =>
        Blind.advance.bind fun _ => ih.term.bind fun _ => ih.exprRest _
      term := (Blind.enter _ _).bind fun _ => ih.factor.bind ih.termRest
      termRest left := .chain multiplicative? left fun _ =>
        Blind.advance.bind fun _ => ih.factor.bind fun _ => ih.termRest _
      factor := (Blind.enter _ _).bind fun _ => .operand ih.factor ih.expr }

namespace Blind

theorem assignment (room : Nat) : Blind (Parser.assignment room) := by
  cases room with
  | zero => exact tooDeep
  | succ room =>
    have expr := (expressionsBlind room).expr
    exact name.bind fun _ => (enter _ _).bind fun _ => (eat _).bind fun _ => expr.bind fun _ => pure _

theorem statement {compound : Parser (List Statement)} (blind : Blind compound) (room : Nat) :
    Blind (Parser.statement compound room) := by
  refine current.bind fun k => ?_
  split
  next => exact blind.bind fun _ => pure _
  next => exact assignment room
  next => exact (enter _ _).bind fun _ => pure _

theorem compound (room : Nat) : Blind (Parser.compound room) := by
  induction room with
  | zero => exact tooDeep
  | succ room ih =>
    exact (enter _ _).bind fun _ => (eat _).bind fun _ =>
      ((statement ih room).separated _).bind fun _ => (eat _).bind fun _ => pure _

theorem typeName : Blind Parser.typeName :=
  current.bind fun _ => ((eat _).bind fun _ => pure _).ite ((eat _).bind fun _ => pure _)

theorem group (room : Nat) : Blind (Parser.group room) :=
  (name.separated _).bind fun _ => (eat _).bind fun _ => typeName.bind fun _ =>
    (enter _ _).bind fun _ => pure _

theorem declarations (room : Nat) : Blind (Parser.declarations room) := by
  refine current.bind fun _ => ite ?_ (pure _)
  cases room with
  | zero => exact tooDeep
  | succ room =>
    have item : Blind (Parser.groupItem room) :=
      (group room).bind fun _ => (eat _).bind fun _ => pure _
    exact (enter _ _).bind fun _ => (eat _).bind fun _ =>
      item.bind fun _ => item.many.bind fun _ => pure _

theorem block (room : Nat) : Blind (Parser.block room) := by
  cases room with
  | zero => exact tooDeep
  | succ room =>
    exact (enter _ _).bind fun _ => (declarations room).bind fun _ =>
      (compound room).bind fun _ => pure _

theorem program (room : Nat) : Blind (Parser.program room) := by
  cases room with
  | zero => exact tooDeep
  | succ room =>
    exact (eat _).bind fun _ => name.bind fun _ => (enter _ _).bind fun _ => (eat _).bind fun _ =>
      (block room).bind fun _ => (eat _).bind fun _ => pure _

end Blind

theorem source_sameOutcome {stream stream' : TokenStream} (alike : stream.Alike stream')
    (s s' : ParserState) : SameOutcome (source stream s) (source stream' s') := by
  have finish (p : Program) : Blind (Parser.finish p) :=
    Blind.current.bind fun _ => .ite (fun _ _ alike => .ok alike) (.unexpected _)
  exact (arrive_sameOutcome alike s s').bind fun _ => (Blind.program maxDepth).bind finish

end Parser

def Error.unplaced : Error → Error
  | .parse error => .parse error.unplaced
  | .name error => .name error
  | .eval error => .eval error

theorem Error.unplaced_bind {α β : Type} (x : Except Error α) (f : α → Except Error β) :
    (x >>= f).mapError Error.unplaced =
      (do (f (← x.mapError Error.unplaced)).mapError Error.unplaced) := by
  cases x <;> rfl

namespace Stage

variable {text text' : String}

theorem parse_alike (alike : (TokenStream.ofSource text).Alike (TokenStream.ofSource text')) :
    (parse text).result.mapError Error.unplaced = (parse text').result.mapError Error.unplaced := by
  have outcome := Parser.source_sameOutcome alike ⟨.ofSource text, [.lexing text]⟩
    ⟨.ofSource text', [.lexing text']⟩
  simp only [parse]
  generalize Parser.source (.ofSource text) _ = r at outcome
  generalize Parser.source (.ofSource text') _ = r' at outcome
  cases outcome with
  | ok => rfl
  | error same => exact congrArg (fun error => Except.error (Error.parse error)) same

theorem interpret_of_parse
    (same : (parse text).result.mapError Error.unplaced = (parse text').result.mapError Error.unplaced) :
    (interpret text).result.mapError Error.unplaced =
      (interpret text').result.mapError Error.unplaced := by
  rw [result_interpret, result_interpret, Error.unplaced_bind, Error.unplaced_bind, same]

end Stage

/-- A text that is read to its end has the same lexemes when they are written with other gaps between
them. It is parsed to the same program and gives the same scope, or it fails with the same error, at
most in another place. -/
theorem interpret_of_relaid {text text' : String} {tokens : List Token} {last : Position}
    (reads : (Lexer.ofSource text).Yields (tokens.map .ok ++ [.ok ⟨.endOfInput, last⟩]))
    (relaid : Relaid text.toList text'.toList) :
    (∃ (tokens' : List Token) (last' : Position),
      (Lexer.ofSource text').Yields (tokens'.map .ok ++ [.ok ⟨.endOfInput, last'⟩]) ∧
        tokens'.map Token.lexeme = tokens.map Token.lexeme) ∧
    (Stage.parse text).result.mapError Error.unplaced =
      (Stage.parse text').result.mapError Error.unplaced ∧
    (Stage.interpret text).result.mapError Error.unplaced =
      (Stage.interpret text').result.mapError Error.unplaced := by
  obtain ⟨end₁, found, end₂, found', read, read', lexemes⟩ := ofSource_relaid relaid
  have alike : (TokenStream.ofSource text).Alike (TokenStream.ofSource text') := by
    rw [read, read']
    exact .of_tokens lexemes _ _
  have parsed := Stage.parse_alike alike
  have same := Lexer.yields_tokens_iff.1 reads
  refine ⟨⟨found', end₂, Lexer.yields_tokens_iff.2 read', ?_⟩, parsed, Stage.interpret_of_parse parsed⟩
  rw [← lexemes, (TokenStream.ended_prepend_inj (read.symm.trans same)).1]

-- Lexemes with no gap where none is needed, and no sentence: a block has to start before the assignment.
def narrowPieces : List Piece :=
  [⟨[], "PROGRAM".toList, .keyword .program⟩, ⟨[' '], ['P'], .identifier "P"⟩,
    ⟨[], [';'], .mark .semicolon⟩, ⟨[], ['x'], .identifier "x"⟩, ⟨[], [':', '='], .mark .assign⟩,
    ⟨[], ['7'], .integer 7⟩, ⟨[], "END".toList, .keyword .blockEnd⟩]

def widePieces : List Piece :=
  [⟨['\n'], "PROGRAM".toList, .keyword .program⟩, ⟨['{', '1', '}'], ['P'], .identifier "P"⟩,
    ⟨[' '], [';'], .mark .semicolon⟩, ⟨['\n'], ['x'], .identifier "x"⟩,
    ⟨[' '], [':', '='], .mark .assign⟩, ⟨[' '], ['7'], .integer 7⟩,
    ⟨[' ', '{', '2', '}'], "END".toList, .keyword .blockEnd⟩]

theorem interpret_of_relaid_wide :
    (Stage.interpret "\nPROGRAM\x7b1\x7dP ;\nx := 7 \x7b2\x7dEND ").result.mapError Error.unplaced =
      .error (.parse (.unexpected (.keyword .blockBegin) .identifier .start)) := by
  have isName : IsIdentifier "P" ∧ IsIdentifier "x" := by decide +kernel
  have blank : Gap [' '] ∧ Gap ['\n'] := ⟨.blank rfl .nil, .blank rfl .nil⟩
  have comment : Gap ['{', '1', '}'] ∧ Gap [' ', '{', '2', '}'] :=
    ⟨@Gap.comment ['1'] [] (by decide) .nil, .blank rfl (@Gap.comment ['2'] [] (by decide) .nil)⟩
  have cut : Piece.Cut narrowPieces [] :=
    ⟨.nil, .keyword .program rfl, blank.1, .identifier isName.1 rfl, .nil, .mark (by decide), .nil,
      .identifier isName.2 rfl, .nil, .mark (m := .assign) (by decide), .nil,
      .integer (by decide) (by decide) (by decide) rfl rfl, .nil, .keyword .blockEnd rfl, .nil⟩
  have spaced : Piece.Spaced widePieces [' '] :=
    ⟨by simp [widePieces, blank, comment], blank.1, by simp [widePieces]⟩
  have same : "PROGRAM P;x:=7END".toList = Piece.join narrowPieces [] := by decide +kernel
  have relaid : Relaid "PROGRAM P;x:=7END".toList "\nPROGRAM\x7b1\x7dP ;\nx := 7 \x7b2\x7dEND ".toList :=
    ⟨narrowPieces, [], widePieces, [' '], cut, same, spaced, by decide +kernel, rfl⟩
  have read := TokenStream.ofSource_join cut same
  have outcome := interpret_of_relaid (Lexer.yields_tokens_iff.2 read) relaid
  rw [← outcome.2.2, Stage.result_interpret, Stage.parse, read]
  rfl

end MiniPascal
