import MiniPascal.Proofs.Parser.Residual

set_option autoImplicit false

namespace MiniPascal

open MiniPascal.Parser

/-- How derivations of one sort are written, what they stand for, which of them have room enough, and
which kinds of tokens may come behind them. -/
structure Phrase (δ α : Type) where
  lexemes : δ → List Lexeme
  value : δ → α
  fitting : δ → Prop
  ends : TokenKind → Prop

namespace Phrase

variable {δ ε α β π : Type}

def Begins (P : Phrase δ α) (d : δ) (l : Lexeme) : Prop :=
  match P.lexemes d with
  | [] => P.ends l.kind
  | first :: _ => first = l

theorem begins_nil {P : Phrase δ α} {d : δ} {l : Lexeme} (none : P.lexemes d = []) :
    P.Begins d l ↔ P.ends l.kind := by
  rw [Begins, none]

theorem begins_cons {P : Phrase δ α} {d : δ} {l first : Lexeme} {rest : List Lexeme}
    (same : P.lexemes d = first :: rest) : P.Begins d l ↔ first = l := by
  rw [Begins, same]

def followed (P : Phrase δ α) (next : δ → Language π) : Language π :=
  fun word p => ∃ d more, word = P.lexemes d ++ more ∧ next d more p

structure Allows (P : Phrase δ α) (fits : π → Prop) (next : δ → Language π) : Prop where
  ends : ∀ {d more p}, next d more p → ∃ l, more.head? = some l ∧ P.ends l.kind
  live : ∀ d, ∃ more p, next d more p
  fitting : ∀ {d more p}, next d more p → fits p → P.fitting d

def Taken (P : Phrase δ α) (next : δ → Language π) (a : α) (rest : Language π) : Prop :=
  ∃ d, P.value d = a ∧ P.fitting d ∧ rest = next d

def ReadAt (P : Phrase δ α) (s : ParserState) (x : Parser α) : Prop :=
  s.stream.Readable → ∀ ⦃π : Type⦄ ⦃fits : π → Prop⦄ ⦃next : δ → Language π⦄,
    P.Allows fits next → Outcome fits (P.followed next) (P.Taken next) s.stream (x s)

def ReadBy (P : Phrase δ α) (x : Parser α) : Prop :=
  ∀ s, P.ReadAt s x

theorem ReadAt.congr {P : Phrase δ α} {s : ParserState} {x y : Parser α} (same : x s = y s)
    (reads : P.ReadAt s y) : P.ReadAt s x :=
  fun readable _ _ _ allows => same ▸ reads readable allows

theorem current_bind {s : ParserState} (f : TokenKind → Parser α) :
    (current >>= f) s = f s.stream.kind s := rfl

theorem Allows.begins {P : Phrase δ α} {fits : π → Prop} {next : δ → Language π}
    (allows : P.Allows fits next) {d : δ} {more : List Lexeme} {p : π} (h : next d more p) :
    ∃ l, (P.lexemes d ++ more).head? = some l ∧ P.Begins d l := by
  cases same : P.lexemes d with
  | nil =>
    obtain ⟨l, first, ends⟩ := allows.ends h
    exact ⟨l, first, (begins_nil same).2 ends⟩
  | cons l rest => exact ⟨l, rfl, (begins_cons same).2 rfl⟩

theorem ReadAt.lexemes_read {P : Phrase δ α} {x : Parser α} {s s' : ParserState}
    (reads : P.ReadAt s x) {l : Lexeme} (ends : P.ends l.kind) {a : α}
    (readable : s.stream.Readable) (ran : x s = .ok a s') :
    ∃ d read, P.value d = a ∧ P.fitting d ∧ s.stream = s'.stream.prepend read ∧
      read.map Token.lexeme = P.lexemes d := by
  -- The reading is the derivation itself, so that what was read can only be its own lexemes.
  have allows : P.Allows P.fitting fun d more p => more = [l] ∧ p = d :=
    ⟨fun h => ⟨l, by rw [h.1]; rfl, ends⟩, fun d => ⟨[l], d, rfl, rfl⟩, fun h fits => h.2 ▸ fits⟩
  have outcome := reads readable allows
  rw [ran] at outcome
  obtain ⟨-, read, _, split, ⟨d, value, fitting, rfl⟩, narrows⟩ := outcome
  have itself : (fun d more p => more = [l] ∧ p = d) d [l] d := ⟨rfl, rfl⟩
  obtain ⟨_, _, same, rfl, rfl⟩ := narrows.within itself
  exact ⟨d, read, value, fitting, split, List.append_cancel_right same⟩

structure Part (P : Phrase δ α) (Q : Phrase ε α) (φ : δ → ε) : Prop where
  lexemes : ∀ d, Q.lexemes (φ d) = P.lexemes d
  value : ∀ d, Q.value (φ d) = P.value d
  fitting : ∀ d, Q.fitting (φ d) ↔ P.fitting d
  ends : ∀ k, Q.ends k → P.ends k

section

variable {P : Phrase δ α} {Q : Phrase ε α} {φ : δ → ε} {x : Parser α}

theorem Part.readAt (part : P.Part Q φ) {s : ParserState} (reads : P.ReadAt s x)
    (covers : ∀ e, Q.Begins e s.stream.lexeme → ∃ d, φ d = e) : Q.ReadAt s x := by
  intro readable π fits next allows
  have allowed : P.Allows fits fun d => next (φ d) := by
    refine ⟨fun h => ?_, fun d => allows.live (φ d), fun h fit =>
      (part.fitting _).1 (allows.fitting h fit)⟩
    obtain ⟨l, first, ended⟩ := allows.ends h
    exact ⟨l, first, part.ends _ ended⟩
  have narrows : (P.followed fun d => next (φ d)).Narrows s.stream.lexeme (Q.followed next) := by
    constructor
    · rintro _ p ⟨d, more, rfl, h⟩
      exact ⟨φ d, more, by rw [part.lexemes], h⟩
    · rintro _ p starts ⟨e, more, rfl, h⟩
      obtain ⟨l, first, begins⟩ := allows.begins h
      obtain rfl := Option.some.inj (starts.symm.trans first)
      obtain ⟨d, rfl⟩ := covers e begins
      exact ⟨d, more, by rw [part.lexemes], h⟩
  refine .lookahead narrows ((reads readable allowed).mono ?_)
  rintro a rest ⟨d, rfl, fit, rfl⟩
  exact ⟨φ d, part.value d, (part.fitting d).2 fit, rfl⟩

theorem Part.readBy (part : P.Part Q φ) (reads : P.ReadBy x) (onto : ∀ e, ∃ d, φ d = e) :
    Q.ReadBy x :=
  fun s => part.readAt (reads s) fun e _ => onto e

end

section

variable {fits : π → Prop} {next : Language π} {s : ParserState}

theorem outcome_arrive {token : Token} {rest : TokenStream} (live : ∃ more p, next more p) :
    Outcome fits (.cons token.lexeme next) (fun _ left => left = next) (.next token rest)
      (arrive rest s) := by
  obtain ⟨more, p, viable⟩ := live
  have narrows (l : Lexeme) :
      next.Narrows l ((Language.cons token.lexeme next).skip [token]) := by
    refine ⟨fun {more p} h => ⟨more, rfl, h⟩, ?_⟩
    rintro more p - ⟨_, same, h⟩
    obtain rfl := (List.cons.inj same).2
    exact h
  cases rest with
  | next _ _ | ended _ => exact ⟨trivial, [token], next, rfl, rfl, narrows _⟩
  | broken e => exact ⟨[token], rfl, rfl, more, p, (narrows .endOfInput).within viable⟩

theorem outcome_unexpected {l : Lexeme} (readable : s.stream.Readable)
    (after : α → Language π → Prop) (language : Language π)
    (viable : ∃ more p, language (l :: more) p)
    (dead : ∀ more p, more.head? = some s.stream.lexeme → ¬ language more p) :
    Outcome fits language after s.stream ((unexpected l.kind : Parser α) s) := by
  obtain ⟨more, p, viable⟩ := viable
  exact ⟨[], rfl, readable, rfl, rfl, ⟨l, more, p, rfl, viable⟩, dead⟩

theorem tooDeep_readAt {P : Phrase δ α}
    (deep : ∀ d, P.Begins d s.stream.lexeme → ¬ P.fitting d) : P.ReadAt s tooDeep := by
  intro readable π fits next allows
  refine ⟨[], rfl, readable, rfl, ?_⟩
  rintro _ p starts ⟨d, more, rfl, h⟩ fit
  obtain ⟨l, first, begins⟩ := allows.begins h
  obtain rfl := Option.some.inj (starts.symm.trans first)
  exact deep d begins (allows.fitting h fit)

end

def nothing (a : α) : Phrase Unit α where
  lexemes _ := []
  value _ := a
  fitting _ := True
  ends _ := True

theorem nothing_readBy (a : α) : (nothing a).ReadBy (pure a) := by
  intro s readable π fits next allows
  have narrows : (next ()).Narrows s.stream.lexeme ((nothing a).followed next) :=
    ⟨fun {more p} h => ⟨(), more, rfl, h⟩, fun {_ p} _ ⟨(), _, same, h⟩ => same ▸ h⟩
  exact .lookahead narrows (.pure readable ⟨(), rfl, trivial, rfl⟩)

def name : Phrase String String where
  lexemes x := [.identifier x]
  value := id
  fitting _ := True
  ends _ := True

theorem name_eq_unexpected {s : ParserState} (differs : s.stream.kind ≠ .identifier) :
    Parser.name s = unexpected .identifier s := by
  obtain ⟨stream, log⟩ := s
  cases stream with
  | next token rest =>
    obtain ⟨lexeme, position⟩ := token
    cases lexeme with
    | identifier x => exact absurd rfl differs
    | _ => rfl
  | ended _ | broken _ => rfl

theorem name_readBy : name.ReadBy Parser.name := by
  intro s readable π fits next allows
  by_cases here : s.stream.kind = .identifier
  next =>
    obtain ⟨stream, log⟩ := s
    rcases stream with _ | _ | ⟨⟨lexeme, position⟩, rest⟩
    · simp [TokenStream.kind] at here
    · simp [TokenStream.kind] at here
    obtain ⟨x, rfl⟩ := Lexeme.eq_identifier_of_kind here
    have narrows : Language.Narrows (.identifier x) (.cons (.identifier x) (next x))
        (name.followed next) := by
      refine ⟨fun ⟨more, same, h⟩ => ⟨x, more, same, h⟩, ?_⟩
      rintro _ p starts ⟨y, more, rfl, h⟩
      obtain ⟨rfl⟩ := Option.some.inj starts
      exact ⟨more, rfl, h⟩
    change Outcome _ _ _ _ ((do arrive rest; return x : Parser String) _)
    refine .lookahead narrows (.bind (outcome_arrive (allows.live x)) ?_)
    rintro _ _ s' - readable' rfl
    exact .pure readable' ⟨x, rfl, trivial, rfl⟩
  next =>
    obtain ⟨more, p, viable⟩ := allows.live ""
    rw [name_eq_unexpected here]
    refine outcome_unexpected (l := .identifier "") readable _ _ ⟨more, p, "", more, rfl, viable⟩ ?_
    rintro _ p starts ⟨x, more, rfl, -⟩
    have same : .identifier x = s.stream.lexeme := Option.some.inj starts
    exact here (by rw [← s.stream.kind_lexeme, ← same]; rfl)

def exactly (l : Lexeme) : Phrase Unit Unit where
  lexemes _ := [l]
  value _ := ()
  fitting _ := True
  ends _ := True

section

variable {l : Lexeme}

theorem advance_readAt {s : ParserState} (isCurrent : s.stream.lexeme = l)
    (notEnd : l ≠ .endOfInput) : (exactly l).ReadAt s advance := by
  intro readable π fits next allows
  have narrows : Language.Narrows s.stream.lexeme (.cons l (next ())) ((exactly l).followed next) := by
    constructor
    · rintro _ p ⟨more, rfl, h⟩
      exact ⟨(), more, rfl, h⟩
    · rintro _ p - ⟨_, more, rfl, h⟩
      exact ⟨more, rfl, h⟩
  obtain ⟨stream, log⟩ := s
  cases stream with
  | next token rest =>
    subst isCurrent
    refine .lookahead narrows ((outcome_arrive (allows.live ())).mono ?_)
    rintro _ _ rfl
    exact ⟨(), rfl, trivial, rfl⟩
  | ended _ | broken _ => exact absurd isCurrent.symm notEnd

theorem exactly_readBy (isFixed : l.isFixed) (notEnd : l ≠ .endOfInput) :
    (exactly l).ReadBy (eat l.kind) := by
  intro s
  change (exactly l).ReadAt s fun s =>
    (if s.stream.kind = l.kind then advance else unexpected l.kind) s
  by_cases here : s.stream.kind = l.kind
  next =>
    have isCurrent : s.stream.lexeme = l :=
      Lexeme.eq_of_kind_eq isFixed (s.stream.kind_lexeme.trans here)
    simpa only [ReadAt, if_pos here] using advance_readAt isCurrent notEnd
  next =>
    intro readable π fits next allows
    obtain ⟨more, p, viable⟩ := allows.live ()
    simp only [if_neg here]
    refine outcome_unexpected readable _ _ ⟨more, p, (), more, rfl, viable⟩ ?_
    rintro _ _ starts ⟨_, more, rfl, -⟩
    obtain rfl := Option.some.inj starts
    exact here s.stream.kind_lexeme.symm

end

def map (P : Phrase δ α) (g : α → β) : Phrase δ β :=
  { P with value := fun d => g (P.value d) }

theorem ReadAt.map {P : Phrase δ α} {x : Parser α} {f : α → Parser β} {s : ParserState}
    (reads : P.ReadAt s x) {g : α → β}
    (finishes : ∀ a s', ∃ log, f a s' = .ok (g a) { s' with log := log }) :
    (P.map g).ReadAt s (x >>= f) := by
  intro readable π fits next allows
  have allowed : P.Allows fits next := ⟨allows.ends, allows.live, allows.fitting⟩
  refine .bind (reads readable allowed) ?_
  rintro _ _ s' - readable' ⟨d, rfl, fitting, rfl⟩
  obtain ⟨log, finished⟩ := finishes (P.value d) s'
  rw [finished]
  exact ⟨readable', [], _, rfl, ⟨d, rfl, fitting, rfl⟩, .refl _ _⟩

def andThen (P : Phrase δ α) (Q : α → Phrase ε β) : Phrase (δ × ε) β where
  lexemes d := P.lexemes d.1 ++ (Q (P.value d.1)).lexemes d.2
  value d := (Q (P.value d.1)).value d.2
  fitting d := P.fitting d.1 ∧ (Q (P.value d.1)).fitting d.2
  ends k := ∀ a, (Q a).ends k

theorem ReadAt.andThen {P : Phrase δ α} {Q : α → Phrase ε β} {x : Parser α} {f : α → Parser β}
    {s : ParserState} (reads : P.ReadAt s x)
    (readsNext : ∀ a s', x s = .ok a s' → (Q a).ReadAt s' (f a)) (inhabited : Nonempty ε)
    (meets : ∀ a e l, (Q a).Begins e l → P.ends l.kind) : (P.andThen Q).ReadAt s (x >>= f) := by
  intro readable π fits next allows
  have allowedNext (d : δ) : (Q (P.value d)).Allows fits fun e => next (d, e) := by
    refine ⟨fun h => ?_, fun e => allows.live (d, e), fun h fit => (allows.fitting h fit).2⟩
    obtain ⟨l, first, ends⟩ := allows.ends h
    exact ⟨l, first, ends _⟩
  have allowed : P.Allows fits fun d => (Q (P.value d)).followed fun e => next (d, e) := by
    refine ⟨?_, fun d => ?_, ?_⟩
    · rintro d _ p ⟨e, more, rfl, h⟩
      obtain ⟨l, first, begins⟩ := (allowedNext d).begins h
      exact ⟨l, first, meets _ e l begins⟩
    · obtain ⟨e⟩ := inhabited
      obtain ⟨more, p, h⟩ := allows.live (d, e)
      exact ⟨_, p, e, more, rfl, h⟩
    · rintro d _ p ⟨e, more, rfl, h⟩ fit
      exact (allows.fitting h fit).1
  have narrows : (P.followed fun d => (Q (P.value d)).followed fun e => next (d, e)).Narrows
      s.stream.lexeme ((P.andThen Q).followed next) := by
    constructor
    · rintro _ p ⟨d, _, rfl, e, more, rfl, h⟩
      exact ⟨(d, e), more, (List.append_assoc _ _ _).symm, h⟩
    · rintro _ p - ⟨⟨d, e⟩, more, rfl, h⟩
      exact ⟨d, _, List.append_assoc _ _ _, e, more, rfl, h⟩
  refine .lookahead narrows (.bind (reads readable allowed) ?_)
  rintro _ _ s' ran readable' ⟨d, rfl, fitting, rfl⟩
  refine (readsNext _ s' ran readable' (allowedNext d)).mono ?_
  rintro _ _ ⟨e, rfl, fitting', rfl⟩
  exact ⟨(d, e), rfl, ⟨fitting, fitting'⟩, rfl⟩

def opened (l : Lexeme) (P : Phrase δ α) : Phrase δ α :=
  { P with lexemes := fun d => l :: P.lexemes d }

theorem ReadAt.opened {P : Phrase δ α} {x : Parser α} (reads : P.ReadBy x) {l : Lexeme}
    {take : Parser Unit} {s : ParserState} (takes : (exactly l).ReadAt s take)
    (inhabited : Nonempty δ) : (P.opened l).ReadAt s (do take; x) := by
  have part : ((exactly l).andThen fun _ => P).Part (P.opened l) Prod.snd :=
    ⟨fun _ => rfl, fun _ => rfl, fun _ => ⟨fun h => ⟨trivial, h⟩, fun h => h.2⟩, fun _ ends _ => ends⟩
  refine part.readAt (takes.andThen (fun _ s' _ => reads s') inhabited ?_) fun d _ => ⟨((), d), rfl⟩
  exact fun _ _ _ _ => trivial

def closed (P : Phrase δ α) (l : Lexeme) : Phrase δ α :=
  { P with lexemes := fun d => P.lexemes d ++ [l], ends := fun _ => True }

theorem ReadBy.closed {P : Phrase δ α} {x : Parser α} (reads : P.ReadBy x) {l : Lexeme}
    (isFixed : l.isFixed) (notEnd : l ≠ .endOfInput) (ends : P.ends l.kind) (g : α → β) :
    ((P.map g).closed l).ReadBy (do let a ← x; eat l.kind; return g a) := by
  have part : (P.andThen fun a => (exactly l).map fun _ => g a).Part ((P.map g).closed l) Prod.fst :=
    ⟨fun _ => rfl, fun _ => rfl, fun _ => ⟨fun h => ⟨h, trivial⟩, fun h => h.1⟩, fun _ _ _ => trivial⟩
  have readsBoth : (P.andThen fun a => (exactly l).map fun _ => g a).ReadBy
      (do let a ← x; eat l.kind; return g a) := by
    intro s
    refine (reads s).andThen (fun a s' _ => ?_) ⟨()⟩ fun _ _ _ (begins : l = _) => begins ▸ ends
    exact (exactly_readBy isFixed notEnd s').map fun _ s' => ⟨s'.log, rfl⟩
  exact part.readBy readsBoth fun d => ⟨(d, ()), rfl⟩

def many (P : Phrase δ α) (more : TokenKind → Bool) : Phrase (List δ) (List α) where
  lexemes ds := ds.flatMap P.lexemes
  value ds := ds.map P.value
  fitting ds := ∀ d ∈ ds, P.fitting d
  ends k := more k = false ∧ P.ends k

-- Whether another item follows can be told from its first token.
structure Repeats (P : Phrase δ α) (more : TokenKind → Bool) : Prop where
  starts : ∀ d, ∃ l rest, P.lexemes d = l :: rest ∧ more l.kind
  continues : ∀ {k}, more k → P.ends k
  stops : more .endOfInput = false

section

variable {P : Phrase δ α} {item : Parser α} {more : TokenKind → Bool}

theorem Repeats.begins_nil (repeats : P.Repeats more) {ds : List δ} {l : Lexeme}
    (begins : (P.many more).Begins ds l) (done : more l.kind = false) : ds = [] := by
  cases ds with
  | nil => rfl
  | cons d ds =>
    obtain ⟨first, rest, same, isMore⟩ := repeats.starts d
    have here : first = l := (begins_cons (by simp only [many, List.flatMap_cons, same]; rfl)).1 begins
    simp [here, done] at isMore

theorem Repeats.begins_cons {ds : List δ} {l : Lexeme} (begins : (P.many more).Begins ds l)
    (isMore : more l.kind) : ∃ d rest, ds = d :: rest := by
  cases ds with
  | nil =>
    have done : more l.kind = false := begins.1
    simp [done] at isMore
  | cons d ds => exact ⟨d, ds, rfl⟩

theorem Repeats.begins_ends (repeats : P.Repeats more) {ds : List δ} {l : Lexeme}
    (begins : (P.many more).Begins ds l) : P.ends l.kind := by
  cases ds with
  | nil => exact begins.2
  | cons d ds =>
    obtain ⟨first, rest, same, isMore⟩ := repeats.starts d
    have here : first = l :=
      (Phrase.begins_cons (by simp only [many, List.flatMap_cons, same]; rfl)).1 begins
    exact here ▸ repeats.continues isMore

theorem nothing_part (taken : List α) :
    (nothing taken.reverse : Phrase Unit _).Part ((P.many more).map (taken.reverse ++ ·)) fun _ => [] :=
  ⟨fun _ => rfl, fun _ => by simp [many, map, nothing], fun _ => by simp [many, map, nothing],
    fun _ _ => trivial⟩

theorem ReadBy.manyUpTo (reads : P.ReadBy item) (repeats : P.Repeats more) {fuel : Nat}
    {taken : List α} {s : ParserState} (enough : s.stream.length ≤ fuel) :
    ((P.many more).map (taken.reverse ++ ·)).ReadAt s (Parser.manyUpTo more item fuel taken) := by
  induction fuel generalizing taken s with
  | zero =>
    -- No token is left, and no item starts with the end of the input.
    have done : more s.stream.lexeme.kind = false := by
      obtain ⟨stream, log⟩ := s
      cases stream with
      | next token rest => simp [TokenStream.length] at enough
      | ended _ | broken _ => exact repeats.stops
    refine (nothing_part taken).readAt (nothing_readBy _ s) fun ds begins => ⟨(), ?_⟩
    exact (repeats.begins_nil begins done).symm
  | succ fuel ih =>
    by_cases isMore : more s.stream.kind
    next =>
      have part : (P.andThen fun a => (P.many more).map ((a :: taken).reverse ++ ·)).Part
          ((P.many more).map (taken.reverse ++ ·)) fun d => d.1 :: d.2 :=
        ⟨fun d => by simp [many, map, Phrase.andThen], fun d => by simp [many, map, Phrase.andThen],
          fun d => by simp [many, map, Phrase.andThen], fun _ ends _ => ends⟩
      have step : Parser.manyUpTo more item (fuel + 1) taken s =
          (item >>= fun a => Parser.manyUpTo more item fuel (a :: taken)) s := by
        rw [Parser.manyUpTo, current_bind, if_pos isMore]
      intro readable
      refine ReadAt.congr step (part.readAt ((reads s).andThen (fun a s' ran => ih ?_) ⟨[]⟩
        fun a ds l begins => repeats.begins_ends begins) fun ds begins => ?_) readable
      · -- An item takes its first token at least.
        have ends : P.ends s.stream.lexeme.kind :=
          repeats.continues (s.stream.kind_lexeme.symm ▸ isMore)
        obtain ⟨d, read, -, -, split, wasRead⟩ := (reads s).lexemes_read ends readable ran
        obtain ⟨l, rest, same, -⟩ := repeats.starts d
        have taken : read.length = rest.length + 1 := by
          rw [← List.length_map (f := Token.lexeme), wasRead, same, List.length_cons]
        rw [split, TokenStream.length_prepend] at enough
        omega
      · obtain ⟨d, rest, rfl⟩ := Repeats.begins_cons begins (s.stream.kind_lexeme ▸ isMore)
        exact ⟨(d, rest), rfl⟩
    next =>
      have done : more s.stream.lexeme.kind = false := by
        rw [s.stream.kind_lexeme]
        simpa using isMore
      have step : Parser.manyUpTo more item (fuel + 1) taken s =
          (pure taken.reverse : Parser (List α)) s := by
        rw [Parser.manyUpTo, current_bind, if_neg isMore]
      refine ReadAt.congr step ((nothing_part taken).readAt (nothing_readBy _ s) fun ds begins => ?_)
      exact ⟨(), (repeats.begins_nil begins done).symm⟩

theorem ReadBy.many (reads : P.ReadBy item) (repeats : P.Repeats more) :
    (P.many more).ReadBy (Parser.many more item) := by
  intro s
  have whole : ((P.many more).map (([] : List α).reverse ++ ·)).ReadAt s
      (Parser.manyUpTo more item s.stream.length []) := reads.manyUpTo repeats (Nat.le_refl _)
  exact whole

def separated (P : Phrase δ α) (mark : Mark) : Phrase (δ × List δ) (List α) where
  lexemes ds := P.lexemes ds.1 ++ ds.2.flatMap fun d => .mark mark :: P.lexemes d
  value ds := P.value ds.1 :: ds.2.map P.value
  fitting ds := P.fitting ds.1 ∧ ∀ d ∈ ds.2, P.fitting d
  ends k := k ≠ .mark mark ∧ P.ends k

theorem ReadBy.separated (reads : P.ReadBy item) {mark : Mark} (ends : P.ends (.mark mark))
    (inhabited : Nonempty δ) : (P.separated mark).ReadBy (Parser.separated mark item) := by
  have repeats : (P.opened (.mark mark)).Repeats (· == .mark mark) :=
    ⟨fun d => ⟨.mark mark, _, rfl, by simp [Lexeme.kind]⟩,
      fun isMark => by rw [beq_iff_eq.1 isMark]; exact ends, rfl⟩
  have others : ((P.opened (.mark mark)).many (· == .mark mark)).ReadBy
      (Parser.many (· == .mark mark) (do eatMark mark; item)) :=
    ReadBy.many (fun s => .opened reads (exactly_readBy rfl (by simp) s) inhabited) repeats
  have part : (P.andThen fun a => ((P.opened (.mark mark)).many (· == .mark mark)).map (a :: ·)).Part
      (P.separated mark) id :=
    ⟨fun _ => rfl, fun _ => rfl, fun _ => Iff.rfl, fun k h _ => ⟨by simpa using h.1, h.2⟩⟩
  have both : (P.andThen fun a => ((P.opened (.mark mark)).many (· == .mark mark)).map (a :: ·)).ReadBy
      (Parser.separated mark item) := by
    intro s
    refine (reads s).andThen (fun a s' _ => ?_) ⟨[]⟩ fun a ds l begins => repeats.begins_ends begins
    exact (others s').map fun _ s' => ⟨s'.log, rfl⟩
  exact part.readBy both fun e => ⟨e, rfl⟩

end

end Phrase

end MiniPascal
