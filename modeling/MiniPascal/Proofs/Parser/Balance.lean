import MiniPascal.Proofs.Parser.Counted
import MiniPascal.Proofs.Parser.Demand

set_option autoImplicit false

namespace MiniPascal

open MiniPascal.Parser (maxDepth Takes)

/-- Moves from zero to a depth within the limit, the latest first. Nothing is lowered by more than there
is, and calls return at the depth at which they were made. -/
inductive CounterHistory : List CounterMove → Nat → Prop where
  | start : CounterHistory [] 0
  | raised {moves : List CounterMove} {depth : Nat} (before : CounterHistory moves depth)
      (room : depth < maxDepth) : CounterHistory (.raised (.ofNat depth) :: moves) (depth + 1)
  | lowered {moves : List CounterMove} {depth amount : Nat}
      (before : CounterHistory moves (depth + amount)) :
      CounterHistory (.lowered (.ofNat amount) (.ofNat (depth + amount)) :: moves) depth
  | returned {moves : List CounterMove} {depth : Nat} (rule : GrammarRule)
      (before : CounterHistory moves depth) :
      CounterHistory (.returned rule (.ofNat depth) (.ofNat depth) :: moves) depth

structure CountedState.At (s : CountedState) (depth : Nat) : Prop where
  counter : s.depth = .ofNat depth
  history : CounterHistory s.moves depth

section Words

theorem ofNat_add_one (n : Nat) : UInt64.ofNat n + 1 = .ofNat (n + 1) :=
  (UInt64.ofNat_add n 1).symm

theorem ofNat_add_sub (n m : Nat) : UInt64.ofNat (n + m) - .ofNat m = .ofNat n := by
  rw [UInt64.ofNat_add, UInt64.add_sub_cancel]

-- Up to one beyond the limit no word wraps around.
theorem lt_size_of_le {n : Nat} (le : n ≤ maxDepth + 1) : n < UInt64.size :=
  Nat.lt_of_le_of_lt le (by decide)

theorem ofNat_le_ofNat {n m : Nat} (le : n ≤ m) (small : m ≤ maxDepth) :
    UInt64.ofNat n ≤ .ofNat m :=
  (UInt64.ofNat_le_iff_le (lt_size_of_le (by omega)) (lt_size_of_le (by omega))).2 le

end Words

structure CounterMove.Sound (move : CounterMove) : Prop where
  before_le : move.before ≤ .ofNat maxDepth
  after_le : move.after ≤ .ofNat maxDepth
  enough : ∀ {amount before}, move = .lowered amount before → amount ≤ before
  unchanged : ∀ {rule called now}, move = .returned rule called now → now = called

namespace CounterHistory

variable {moves : List CounterMove} {depth : Nat}

theorem depth_le (history : CounterHistory moves depth) : depth ≤ maxDepth := by
  induction history with
  | start => exact Nat.zero_le _
  | raised _ room _ => exact room
  | lowered _ ih => exact Nat.le_of_add_right_le ih
  | returned _ _ ih => exact ih

theorem connected (history : CounterHistory moves depth) :
    .ofNat depth :: moves.map CounterMove.before = moves.map CounterMove.after ++ [0] := by
  induction history with
  | start => rfl
  | raised _ _ ih => exact congrArg₂ List.cons (ofNat_add_one _).symm ih
  | lowered _ ih => exact congrArg₂ List.cons (ofNat_add_sub _ _).symm ih
  | returned _ _ ih => exact congrArg (List.cons _) ih

theorem sound (history : CounterHistory moves depth) : ∀ move ∈ moves, move.Sound := by
  induction history with
  | start => simp
  | @raised moves depth before room ih =>
    have small := ofNat_le_ofNat before.depth_le (Nat.le_refl _)
    refine List.forall_mem_cons.2 ⟨⟨small, ?_, nofun, nofun⟩, ih⟩
    rw [CounterMove.after, ofNat_add_one]
    exact ofNat_le_ofNat room (Nat.le_refl _)
  | @lowered moves depth amount before ih =>
    have small := before.depth_le
    refine List.forall_mem_cons.2 ⟨⟨ofNat_le_ofNat small (Nat.le_refl _), ?_, ?_, nofun⟩, ih⟩
    · rw [CounterMove.after, ofNat_add_sub]
      exact ofNat_le_ofNat (Nat.le_of_add_right_le small) (Nat.le_refl _)
    · rintro _ _ ⟨⟩
      exact ofNat_le_ofNat (Nat.le_add_left _ _) small
  | returned rule before ih =>
    have small := ofNat_le_ofNat before.depth_le (Nat.le_refl _)
    refine List.forall_mem_cons.2 ⟨⟨small, small, nofun, ?_⟩, ih⟩
    rintro _ _ _ ⟨⟩
    rfl

end CounterHistory

theorem CountedState.At.toNat_depth {s : CountedState} {depth : Nat} (here : s.At depth) :
    s.depth.toNat = depth := by
  rw [here.counter]
  exact UInt64.toNat_ofNat_of_lt' (lt_size_of_le (Nat.le_succ_of_le here.history.depth_le))

namespace CountedParser

variable {α β : Type}

/-- How a parser that counts ends beside one with room: in the same way and with the same reports. On
success the counter is at `exit`. Only a level too many leaves it beyond the limit. -/
inductive Matches (exit : Nat) : Option (Except ParseError α × CountedState) →
    EStateM.Result ParseError ParserState α → Prop where
  | ok {a : α} {s : CountedState} (here : s.At exit) : Matches exit (some (.ok a, s)) (.ok a s.parser)
  | error {e : ParseError} {s : CountedState} {depth : Nat} (here : s.At depth) :
      Matches exit (some (.error e, s)) (.error e s.parser)
  | tooDeep {s : CountedState} (here : s.At maxDepth) :
      Matches exit
        (some (.error (.tooDeep maxDepth),
          { s with depth := s.depth + 1, moves := .raised s.depth :: s.moves }))
        (.error (.tooDeep maxDepth) s.parser)

section Run

variable {x : CountedParser α} {f : α → CountedParser β} {s s' : CountedState}

theorem bind_of_ok {a : α} (ran : x s = some (.ok a, s')) : (x >>= f) s = f a s' := by
  change (x s).bind _ = _
  rw [ran]
  rfl

theorem bind_of_error {e : ParseError} (ran : x s = some (.error e, s')) :
    (x >>= f) s = some (.error e, s') := by
  change (x s).bind _ = _
  rw [ran]
  rfl

theorem Matches.bind {y : Parser α} {g : α → Parser β} {middle exit : Nat}
    (outcome : Matches middle (x s) (y s.parser))
    (next : ∀ a s', y s.parser = .ok a s'.parser → s'.At middle →
      Matches exit (f a s') (g a s'.parser)) :
    Matches exit ((x >>= f) s) ((y >>= g) s.parser) := by
  generalize ran : x s = r at outcome
  generalize ran' : y s.parser = r' at outcome
  cases outcome with
  | ok after =>
    rw [bind_of_ok ran, MiniPascal.bind_of_ok ran']
    exact next _ _ ran' after
  | error after =>
    rw [bind_of_error ran, MiniPascal.bind_of_error ran']
    exact .error after
  | tooDeep after =>
    rw [bind_of_error ran, MiniPascal.bind_of_error ran']
    exact .tooDeep after

theorem get_bind (f : CountedState → CountedParser α) (s : CountedState) : (get >>= f) s = f s s := rfl

theorem current_bind (f : TokenKind → CountedParser α) (s : CountedState) :
    (current >>= f) s = f s.parser.stream.kind s := rfl

theorem raise_of_room {depth : Nat} (here : s.At depth) (room : depth < maxDepth) :
    raise s = some (.ok (), { s with depth := s.depth + 1, moves := .raised s.depth :: s.moves }) := by
  have within : ¬ UInt64.ofNat maxDepth < s.depth + 1 := by
    rw [here.counter, ofNat_add_one,
      UInt64.ofNat_lt_iff_lt (lt_size_of_le (Nat.le_succ _)) (lt_size_of_le (Nat.le_succ_of_le room))]
    exact Nat.not_lt.2 room
  change (if UInt64.ofNat maxDepth < s.depth + 1 then throw (.tooDeep maxDepth) else pure () :
    CountedParser Unit) _ = _
  rw [if_neg within]
  rfl

theorem raise_of_limit (here : s.At maxDepth) : raise s =
    some (.error (.tooDeep maxDepth),
      { s with depth := s.depth + 1, moves := .raised s.depth :: s.moves }) := by
  have beyond : UInt64.ofNat maxDepth < s.depth + 1 := by
    rw [here.counter]
    decide
  change (if UInt64.ofNat maxDepth < s.depth + 1 then throw (.tooDeep maxDepth) else pure () :
    CountedParser Unit) _ = _
  rw [if_pos beyond]
  rfl

end Run

def Simulates (entry exit : Nat) (x : CountedParser α) (y : Parser α) : Prop :=
  ∀ s, s.At entry → Matches exit (x s) (y s.parser)

namespace Simulates

variable {entry middle exit depth : Nat} {x : CountedParser α} {y : Parser α}

theorem pure (a : α) : Simulates depth depth (Pure.pure a) (Pure.pure a) :=
  fun _ here => .ok here

theorem bind {f : α → CountedParser β} {g : α → Parser β} (first : Simulates entry middle x y)
    (second : ∀ a, Simulates middle exit (f a) (g a)) : Simulates entry exit (x >>= f) (y >>= g) :=
  fun s here => (first s here).bind fun a s' _ after => second a s' after

theorem ite {c : Prop} [Decidable c] {x' : CountedParser α} {y' : Parser α}
    (yes : Simulates entry exit x y) (no : Simulates entry exit x' y') :
    Simulates entry exit (if c then x else x') (if c then y else y') := by
  split
  next => exact yes
  next => exact no

theorem plain (y : Parser α) : Simulates depth depth (CountedParser.plain y) y := by
  intro s here
  rw [CountedParser.plain]
  cases y s.parser with
  | ok a parser => exact .ok (s := { s with parser }) ⟨here.counter, here.history⟩
  | error e parser => exact .error (s := { s with parser }) ⟨here.counter, here.history⟩

theorem enter {room : Nat} (total : depth + room = maxDepth) (production : Production) :
    Simulates depth depth (CountedParser.enter production) (Parser.enter room production) := by
  intro s here
  have shown : maxDepth - room = s.depth.toNat := by
    rw [here.toNat_depth, ← total, Nat.add_sub_cancel]
  rw [CountedParser.enter, get_bind, Parser.enter, shown]
  exact plain _ s here

theorem raise {f : Unit → CountedParser α} (room : depth < maxDepth)
    (next : Simulates (depth + 1) exit (f ()) y) :
    Simulates depth exit (CountedParser.raise >>= f) y := by
  intro s here
  rw [bind_of_ok (raise_of_room here room)]
  refine next _ ⟨?_, ?_⟩
  · rw [here.counter, ofNat_add_one]
  · rw [here.counter]
    exact .raised here.history room

theorem raise_limit (limit : depth = maxDepth) (f : Unit → CountedParser α) :
    Simulates depth exit (CountedParser.raise >>= f) Parser.tooDeep := by
  intro s here
  subst limit
  rw [bind_of_error (raise_of_limit here)]
  exact .tooDeep here

theorem lower (amount : Nat) {f : Unit → CountedParser α} (next : Simulates depth exit (f ()) y) :
    Simulates (depth + amount) exit (CountedParser.lower (.ofNat amount) >>= f) y := by
  intro s here
  have lowered : CountedParser.lower (.ofNat amount) s = some (.ok (), { s with
    depth := s.depth - .ofNat amount
    moves := .lowered (.ofNat amount) s.depth :: s.moves }) := rfl
  rw [bind_of_ok lowered]
  refine next _ ⟨?_, ?_⟩
  · rw [here.counter, UInt64.ofNat_add, UInt64.add_sub_cancel]
  · rw [here.counter]
    exact .lowered here.history

theorem entered {room : Nat} {production : Production} {body : CountedParser α} {body' : Parser α}
    (total : depth + (room + 1) = maxDepth) (same : Simulates (depth + 1) exit body body') :
    Simulates depth exit (do CountedParser.raise; CountedParser.enter production; body)
      (do Parser.enter room production; body') :=
  raise (by omega) ((enter (by omega) production).bind fun _ => same)

theorem lowered (amount : Nat) (same : Simulates entry (exit + amount) x y) :
    Simulates entry exit (do let a ← x; CountedParser.lower (.ofNat amount); return a) y := by
  have both := same.bind (f := fun a => do CountedParser.lower (.ofNat amount); return a)
    fun a => lower amount (pure a)
  rwa [bind_pure] at both

theorem call (rule : GrammarRule) (body : Simulates depth depth x y) :
    Simulates depth depth (CountedParser.call rule x) y := by
  intro s here
  rw [CountedParser.call, get_bind, ← bind_pure y]
  refine (body s here).bind fun a s' _ after =>
    .ok (s := { s' with moves := .returned rule s.depth s'.depth :: s'.moves }) ⟨after.counter, ?_⟩
  rw [here.counter, after.counter]
  exact .returned rule after.history

section Loop

variable {more : TokenKind → Bool} {item : CountedParser α} {item' : Parser α}

/-- A loop comes to an end because each item takes a token. -/
theorem manyUpTo (same : Simulates depth depth item item') (takes : Takes item')
    (stops : more .endOfInput = false) {fuel : Nat} {taken : List α} {s : CountedState}
    (here : s.At depth) (enough : s.parser.stream.length ≤ fuel) :
    Matches depth (CountedParser.manyUpTo more item (fuel + 1) taken s)
      (Parser.manyUpTo more item' fuel taken s.parser) := by
  induction fuel generalizing taken s with
  | zero =>
    have stop : more s.parser.stream.kind = false :=
      Parser.kind_of_length (Nat.le_zero.1 enough) ▸ stops
    rw [Parser.manyUpTo_of_stop stop, CountedParser.manyUpTo, current_bind, if_neg (by simp [stop])]
    exact .ok here
  | succ fuel ih =>
    rw [CountedParser.manyUpTo, current_bind]
    cases goesOn : more s.parser.stream.kind with
    | false =>
      rw [Parser.manyUpTo_of_stop goesOn, if_neg Bool.false_ne_true]
      exact .ok here
    | true =>
      rw [Parser.manyUpTo_of_more goesOn, if_pos rfl]
      refine (same s here).bind fun a s' ran after => ih after ?_
      have shorter := (takes _ _ _ ran).2
      omega

theorem many (same : Simulates depth depth item item') (takes : Takes item')
    (stops : more .endOfInput = false) :
    Simulates depth depth (CountedParser.many more item) (Parser.many more item') :=
  fun _ here => manyUpTo same takes stops here (Nat.le_refl _)

theorem separated {mark : Mark} (same : Simulates depth depth item item')
    (takes : Takes (do Parser.eatMark mark; item')) :
    Simulates depth depth (CountedParser.separated mark item) (Parser.separated mark item') :=
  same.bind fun _ => (many ((plain _).bind fun _ => same) takes rfl).bind fun _ => pure _

end Loop

-- A chain of operands ends, and the counter goes back by all its folds, or an operator makes it longer.
theorem chain (operator? : TokenKind → Option BinaryOp) (left : Expr) {folds : Nat}
    {longer : BinaryOp → CountedParser Expr} {longer' : BinaryOp → Parser Expr}
    (same : ∀ op, Simulates (depth + 1 + folds) depth (longer op) (longer' op)) :
    Simulates (depth + 1 + folds) depth
      (do
        match operator? (← current) with
        | none =>
          CountedParser.lower (.ofNat folds)
          CountedParser.lower 1
          return left
        | some op => longer op)
      (do
        match operator? (← Parser.current) with
        | none => return left
        | some op => longer' op) := by
  refine (plain _).bind fun k => ?_
  cases operator? k with
  | none => exact .lower folds (.lower 1 (pure left))
  | some op => exact same op

theorem fold (operator? : TokenKind → Option BinaryOp) (left : Expr) {folds : Nat}
    (room : depth + 1 + folds < maxDepth) {operand : CountedParser Expr} {operand' : Parser Expr}
    {rest : UInt64 → Expr → CountedParser Expr} {rest' : Expr → Parser Expr}
    (sameOperand : Simulates (depth + 1 + (folds + 1)) (depth + 1 + (folds + 1)) operand operand')
    (sameRest : ∀ left, Simulates (depth + 1 + (folds + 1)) depth (rest (.ofNat (folds + 1)) left)
      (rest' left)) :
    Simulates (depth + 1 + folds) depth
      (do
        match operator? (← current) with
        | none =>
          CountedParser.lower (.ofNat folds)
          CountedParser.lower 1
          return left
        | some op =>
          CountedParser.raise
          CountedParser.plain Parser.advance
          rest (.ofNat folds + 1) (.binary left op (← operand)))
      (do
        match operator? (← Parser.current) with
        | none => return left
        | some op =>
          Parser.advance
          rest' (.binary left op (← operand'))) := by
  refine chain operator? left fun op => raise room ((plain _).bind fun _ => ?_)
  rw [ofNat_add_one]
  exact sameOperand.bind fun right => sameRest _

theorem name : Simulates depth depth CountedParser.name Parser.name :=
  call _ (plain _)

theorem operand {room : Nat} {factor expr : CountedParser Expr}
    (sameFactor : Simulates depth depth factor (Parser.factor room))
    (sameExpr : Simulates depth depth expr (Parser.expr room)) :
    Simulates depth depth (CountedParser.operand factor expr)
      (Parser.operand (Parser.factor room) (Parser.expr room)) := by
  intro s here
  rw [CountedParser.operand, get_bind, Parser.operand, Phrase.get_bind]
  cases Parser.sign? s.parser.stream.kind with
  | some op => exact ((plain _).bind fun _ => sameFactor.bind fun _ => pure _) s here
  | none =>
    cases Parser.literal? s.parser.stream with
    | some value => exact ((plain _).bind fun _ => pure _) s here
    | none =>
      have parens : Simulates depth depth
          (do
            eatMark .openParen
            let inner ← expr
            eatMark .closeParen
            return inner)
          (Parser.parens (Parser.expr room)) :=
        (plain _).bind fun _ => sameExpr.bind fun _ => (plain _).bind fun _ => pure _
      exact parens.ite (name.bind fun _ => pure _) s here

end Simulates

structure ExpressionsCounted (room fuel : Nat) : Prop where
  expr {depth : Nat} (total : depth + room = maxDepth) :
    Simulates depth depth (expr fuel) (Parser.expr room)
  exprFolds {depth : Nat} (folds : Nat) (total : depth + 1 + folds + room = maxDepth) (left : Expr) :
    Simulates (depth + 1 + folds) depth (exprFolds fuel (.ofNat folds) left)
      (Parser.exprRest room left)
  term {depth : Nat} (total : depth + room = maxDepth) :
    Simulates depth depth (term fuel) (Parser.term room)
  termFolds {depth : Nat} (folds : Nat) (total : depth + 1 + folds + room = maxDepth) (left : Expr) :
    Simulates (depth + 1 + folds) depth (termFolds fuel (.ofNat folds) left)
      (Parser.termRest room left)
  factor {depth : Nat} (total : depth + room = maxDepth) :
    Simulates depth depth (factor fuel) (Parser.factor room)

-- Each level of calls takes one from the room and one from the fuel.
theorem expressionsCounted {room fuel : Nat} (enough : room ≤ fuel) :
    ExpressionsCounted room (fuel + 1) := by
  induction room generalizing fuel with
  | zero =>
    refine ⟨?_, ?_, ?_, ?_, ?_⟩
    · intro depth total
      exact .call _ (.raise_limit total _)
    · intro depth folds total left
      exact .chain Parser.additive? left fun op => .raise_limit total _
    · intro depth total
      exact .call _ (.raise_limit total _)
    · intro depth folds total left
      exact .chain Parser.multiplicative? left fun op => .raise_limit total _
    · intro depth total
      exact .call _ (.raise_limit total _)
  | succ room ih =>
    obtain ⟨fuel, rfl⟩ := Nat.exists_eq_add_one_of_ne_zero (Nat.ne_zero_of_lt enough)
    have ih := ih (Nat.le_of_succ_le_succ enough)
    refine ⟨?_, ?_, ?_, ?_, ?_⟩
    · intro depth total
      have below : depth + 1 + room = maxDepth := by omega
      exact .call _ (.entered total ((ih.term below).bind fun left => ih.exprFolds 0 below left))
    · intro depth folds total left
      have below : depth + 1 + (folds + 1) + room = maxDepth := by omega
      exact .fold Parser.additive? left (by omega) (ih.term below) (ih.exprFolds _ below)
    · intro depth total
      have below : depth + 1 + room = maxDepth := by omega
      exact .call _ (.entered total ((ih.factor below).bind fun left => ih.termFolds 0 below left))
    · intro depth folds total left
      have below : depth + 1 + (folds + 1) + room = maxDepth := by omega
      exact .fold Parser.multiplicative? left (by omega) (ih.factor below) (ih.termFolds _ below)
    · intro depth total
      have below : depth + 1 + room = maxDepth := by omega
      have operand := Simulates.operand (ih.factor below) (ih.expr below)
      exact .call _ (.entered total (.lowered 1 operand))

namespace Simulates

variable {room fuel depth : Nat}

theorem assignment (total : depth + room = maxDepth) (enough : room ≤ fuel) :
    Simulates depth depth (CountedParser.assignment (fuel + 1)) (Parser.assignment room) := by
  refine call _ ?_
  cases room with
  | zero => exact raise_limit total _
  | succ room =>
    have below : depth + 1 + room = maxDepth := by omega
    have expr := (expressionsCounted (Nat.le_of_succ_le enough)).expr below
    exact raise (by omega) (name.bind fun _ => (enter below _).bind fun _ => (plain _).bind fun _ =>
      expr.bind fun _ => lower 1 (pure _))

section Statements

variable {compound : CountedParser (List Statement)} {compound' : Parser (List Statement)}

theorem statement (total : depth + room = maxDepth) (enough : room ≤ fuel)
    (same : Simulates depth depth compound compound') :
    Simulates depth depth (CountedParser.statement compound (fuel + 1))
      (Parser.statement compound' room) := by
  have noOp := (enter total .noOp).bind fun _ => pure Statement.noOp
  refine call _ ((plain _).bind fun k => ?_)
  cases k with
  | identifier => exact assignment total enough
  | keyword word =>
    cases word with
    | blockBegin => exact same.bind fun _ => pure _
    | _ => exact noOp
  | _ => exact noOp

theorem statements (total : depth + room = maxDepth) (enough : room ≤ fuel)
    (same : Simulates depth depth compound compound') (steady : Parser.Steady compound') :
    Simulates depth depth (CountedParser.statements compound (fuel + 1))
      (Parser.separated .semicolon (Parser.statement compound' room)) :=
  call _ ((statement total enough same).separated
    ((Takes.eat (by simp)).bind fun _ => Parser.Steady.statement steady room))

end Statements

theorem compound (total : depth + room = maxDepth) (enough : room ≤ fuel) :
    Simulates depth depth (CountedParser.compound (fuel + 1)) (Parser.compound room) := by
  induction room generalizing depth fuel with
  | zero => exact call _ (raise_limit total _)
  | succ room ih =>
    obtain ⟨fuel, rfl⟩ := Nat.exists_eq_add_one_of_ne_zero (Nat.ne_zero_of_lt enough)
    have enough : room ≤ fuel := Nat.le_of_succ_le_succ enough
    have below : depth + 1 + room = maxDepth := by omega
    have body := statements below enough (ih below enough) (Parser.Steady.compound room)
    exact call _ (entered total ((plain _).bind fun _ => body.bind fun _ =>
      (plain _).bind fun _ => lower 1 (pure _)))

theorem names : Simulates depth depth (CountedParser.separated .comma CountedParser.name)
    (Parser.separated .comma Parser.name) :=
  name.separated ((Takes.eat (by simp)).bind fun _ => .name)

theorem group (total : depth + room = maxDepth) :
    Simulates depth depth CountedParser.group (Parser.group room) :=
  call _ (names.bind fun _ => (plain _).bind fun _ => (call _ (plain _)).bind fun _ =>
    (enter total _).bind fun _ => pure _)

theorem declarations (total : depth + room = maxDepth) :
    Simulates depth depth CountedParser.declarations (Parser.declarations room) := by
  refine call _ ((plain _).bind fun k => ite ?_ (pure _))
  cases room with
  | zero => exact raise_limit total _
  | succ room =>
    have below : depth + 1 + room = maxDepth := by omega
    have item : Simulates (depth + 1) (depth + 1)
        (do
          let declared ← CountedParser.group
          eatMark .semicolon
          return declared)
        (Parser.groupItem room) :=
      (group below).bind fun _ => (plain _).bind fun _ => pure _
    have takes := Parser.Steady.takes_groupItem room
    exact entered total ((plain _).bind fun _ => item.bind fun _ => (item.many takes rfl).bind fun _ =>
      lower 1 (pure _))

theorem block (total : depth + room = maxDepth) (enough : room ≤ fuel) :
    Simulates depth depth (CountedParser.block (fuel + 1)) (Parser.block room) := by
  refine call _ ?_
  cases room with
  | zero => exact raise_limit total _
  | succ room =>
    have below : depth + 1 + room = maxDepth := by omega
    have compound := compound below (Nat.le_of_succ_le enough)
    exact entered total ((declarations below).bind fun _ => compound.bind fun _ =>
      lower 1 (pure _))

theorem program (total : depth + room = maxDepth) (enough : room ≤ fuel) :
    Simulates depth depth (CountedParser.program (fuel + 1)) (Parser.program room) := by
  refine call _ ?_
  cases room with
  | zero => exact raise_limit total _
  | succ room =>
    have below : depth + 1 + room = maxDepth := by omega
    have block := block below (Nat.le_of_succ_le enough)
    exact raise (by omega) ((plain _).bind fun _ => name.bind fun _ => (enter below _).bind fun _ =>
      (plain _).bind fun _ => block.bind fun _ => (plain _).bind fun _ =>
        lower 1 (pure _))

theorem source (enough : maxDepth ≤ fuel) (stream : TokenStream) :
    Simulates 0 0 (CountedParser.source (fuel + 1) stream) (Parser.source stream) :=
  (plain _).bind fun _ => (program (Nat.zero_add _) enough).bind fun _ => plain _

end Simulates

theorem parse_matches {fuel : Nat} (enough : maxDepth ≤ fuel) (text : String) :
    Matches 0 (parse (fuel + 1) text)
      (Parser.source (.ofSource text) ⟨.ofSource text, [.lexing text]⟩) :=
  Simulates.source enough (.ofSource text) ⟨⟨.ofSource text, [.lexing text]⟩, 0, []⟩ ⟨rfl, .start⟩

theorem parse_history {fuel : Nat} (enough : maxDepth ≤ fuel) (text : String) :
    ∃ (result : Except ParseError Program) (last : CountedState),
      parse (fuel + 1) text = some (result, last) ∧
      Stage.parse text = ⟨result.mapError .parse, last.parser.log.reverse⟩ ∧
      ((∃ depth, last.At depth ∧ ∀ p, result = .ok p → depth = 0) ∨
        result = .error (.tooDeep maxDepth) ∧ last.depth = .ofNat (maxDepth + 1) ∧
          ∃ moves, last.moves = .raised (.ofNat maxDepth) :: moves ∧
            CounterHistory moves maxDepth) := by
  have outcome := parse_matches enough text
  simp only [Stage.parse]
  generalize parse (fuel + 1) text = r at outcome ⊢
  generalize Parser.source (.ofSource text) _ = r' at outcome ⊢
  cases outcome with
  | @ok p s here => exact ⟨.ok p, s, rfl, rfl, .inl ⟨0, here, fun _ _ => rfl⟩⟩
  | @error e s depth here =>
    refine ⟨.error e, s, rfl, rfl, .inl ⟨depth, here, fun p isOk => ?_⟩⟩
    cases isOk
  | @tooDeep s here =>
    refine ⟨_, _, rfl, rfl, .inr ⟨rfl, ?_, s.moves, ?_, here.history⟩⟩
    · simp only [here.counter, ofNat_add_one]
    · simp only [here.counter]

end CountedParser

/-- The depth counter is balanced, for every source text. With fuel beyond the limit, however much, the
parser that counts comes to an end with the result and the log of the parser with room. The moves of its
counter start at zero, and each of them finds what the one before it has left. The counter is at most 256
at any time but the last, and 257 then only if that is why the parser fails; it is never lowered by more
than there is. A call that succeeds returns at the depth at which it was made, and a program ends at depth
zero. -/
theorem depth_counter_balanced (text : String) (spare : Nat) :
    ∃ (result : Except ParseError Program) (last : CountedState),
      CountedParser.parse (256 + spare + 1) text = some (result, last) ∧
      Stage.parse text = ⟨result.mapError .parse, last.parser.log.reverse⟩ ∧
      last.depth :: last.moves.map CounterMove.before = last.moves.map CounterMove.after ++ [0] ∧
      (∀ rule called now, .returned rule called now ∈ last.moves → now = called) ∧
      (∀ later move earlier, last.moves = later ++ move :: earlier →
        move.after ≤ 256 ∨
          move.after = 257 ∧ later = [] ∧ result = .error (.tooDeep 256)) ∧
      (∀ before, .raised before ∈ last.moves → before ≤ 256) ∧
      (∀ amount before, .lowered amount before ∈ last.moves → amount ≤ before) ∧
      ∀ p, result = .ok p → last.depth = 0 := by
  obtain ⟨result, last, ran, same, ⟨depth, here, ended⟩ | ⟨deep, beyond, moves, isLast, history⟩⟩ :=
    CountedParser.parse_history (Nat.le_add_right maxDepth spare) text
  next =>
    have sound := here.history.sound
    refine ⟨result, last, ran, same, here.counter ▸ here.history.connected,
      fun _ _ _ among => (sound _ among).unchanged rfl, fun later move earlier parts => .inl ?_,
      fun _ among => (sound _ among).before_le, fun _ _ among => (sound _ among).enough rfl,
      fun p isOk => ?_⟩
    · exact (sound move (by simp [parts])).after_le
    · rw [here.counter, ended p isOk]
      rfl
  next =>
    have sound := history.sound
    refine ⟨result, last, ran, same, ?_, ?_, ?_, ?_, ?_, fun p isOk => ?_⟩
    · rw [isLast, beyond]
      exact congrArg (List.cons _) history.connected
    · intro rule called now among
      have among : .returned rule called now ∈ moves := by simpa [isLast] using among
      exact (sound _ among).unchanged rfl
    · intro later move earlier parts
      cases later with
      | nil =>
        obtain ⟨rfl, rfl⟩ := List.cons.inj (isLast.symm.trans parts)
        exact .inr ⟨rfl, rfl, deep⟩
      | cons latest later =>
        obtain ⟨-, rfl⟩ := List.cons.inj (isLast.symm.trans parts)
        exact .inl (sound move (by simp)).after_le
    · intro before among
      rw [isLast, List.mem_cons] at among
      rcases among with atLimit | among
      · cases atLimit
        decide
      · exact (sound _ among).before_le
    · intro amount before among
      have among : .lowered amount before ∈ moves := by simpa [isLast] using among
      exact (sound _ among).enough rfl
    · rw [deep] at isOk
      cases isOk

end MiniPascal
