import MiniPascal.Proofs.Grammar.Relabel
import MiniPascal.Proofs.Token.Stream

set_option autoImplicit false

namespace MiniPascal

namespace TokenStream

def lexeme : TokenStream → Lexeme
  | .next token _ => token.lexeme
  | .ended _ | .broken _ => .endOfInput

def Readable : TokenStream → Prop
  | .next _ _ | .ended _ => True
  | .broken _ => False

theorem kind_lexeme (stream : TokenStream) : stream.lexeme.kind = stream.kind := by
  cases stream <;> rfl

theorem Proper.eq_ended {stream : TokenStream} (proper : stream.Proper) (readable : stream.Readable)
    (atEnd : stream.kind = .endOfInput) : ∃ position, stream = .ended position := by
  cases stream with
  | ended position => exact ⟨position, rfl⟩
  | broken e => cases readable
  | next token rest => exact absurd atEnd (proper token (by simp [tokens]))

theorem head?_append_lexeme {read : List Token} {stream : TokenStream} {more : List Lexeme}
    (starts : more.head? = some stream.lexeme) :
    (read.map Token.lexeme ++ more).head? = some (stream.prepend read).lexeme := by
  cases read with
  | nil => exact starts
  | cons token read => rfl

end TokenStream

-- Lists of lexemes, each with a reading that it completes.
abbrev Language (π : Type) := List Lexeme → π → Prop

namespace Language

variable {π : Type}

def skip (language : Language π) (read : List Token) : Language π :=
  fun more p => language (read.map Token.lexeme ++ more) p

def cons (l : Lexeme) (next : Language π) : Language π :=
  fun word p => ∃ more, word = l :: more ∧ next more p

structure Narrows (head : Lexeme) (narrow wide : Language π) : Prop where
  within : ∀ {more p}, narrow more p → wide more p
  keeps : ∀ {more p}, more.head? = some head → wide more p → narrow more p

namespace Narrows

variable {head : Lexeme} {narrow middle wide : Language π}

theorem refl (head : Lexeme) (language : Language π) : language.Narrows head language :=
  ⟨id, fun _ => id⟩

theorem trans (first : narrow.Narrows head middle) (second : middle.Narrows head wide) :
    narrow.Narrows head wide :=
  ⟨fun h => second.within (first.within h), fun starts h => first.keeps starts (second.keeps starts h)⟩

theorem skip {stream : TokenStream} {read : List Token}
    (h : narrow.Narrows (stream.prepend read).lexeme wide) :
    (narrow.skip read).Narrows stream.lexeme (wide.skip read) :=
  ⟨h.within, fun starts => h.keeps (TokenStream.head?_append_lexeme starts)⟩

end Narrows

end Language

section

variable {π α β : Type} {fits : π → Prop}

/-- How an error is borne out by all that might have come at the current token. -/
def Blames (fits : π → Prop) (language : Language π) (stream : TokenStream) : ParseError → Prop
  | .unexpected expected found position =>
    stream.Readable ∧ found = stream.kind ∧ position = stream.position ∧
      (∃ l more p, l.kind = expected ∧ language (l :: more) p) ∧
      ∀ more p, more.head? = some stream.lexeme → ¬ language more p
  | .lexical error => stream = .broken error ∧ ∃ more p, language more p
  | .tooDeep limit =>
    stream.Readable ∧ limit = Parser.maxDepth ∧
      ∀ more p, more.head? = some stream.lexeme → language more p → ¬ fits p

/-- The result of a parser that was started on `stream` when `before` was all that might come. On
success `after` relates the value to what may come behind it. -/
def Outcome (fits : π → Prop) (before : Language π) (after : α → Language π → Prop)
    (stream : TokenStream) : EStateM.Result ParseError ParserState α → Prop
  | .ok a s =>
    s.stream.Readable ∧ ∃ read rest, stream = s.stream.prepend read ∧ after a rest ∧
      rest.Narrows s.stream.lexeme (before.skip read)
  | .error e s =>
    ∃ read, stream = s.stream.prepend read ∧ Blames fits (before.skip read) s.stream e

theorem Blames.widen {narrow wide : Language π} {stream : TokenStream} {e : ParseError}
    (blames : Blames fits narrow stream e) (narrows : narrow.Narrows stream.lexeme wide) :
    Blames fits wide stream e := by
  cases e with
  | unexpected expected found position =>
    obtain ⟨readable, found, position, ⟨l, more, p, kind, viable⟩, dead⟩ := blames
    exact ⟨readable, found, position, ⟨l, more, p, kind, narrows.within viable⟩,
      fun more p starts h => dead more p starts (narrows.keeps starts h)⟩
  | lexical error =>
    obtain ⟨broken, more, p, viable⟩ := blames
    exact ⟨broken, more, p, narrows.within viable⟩
  | tooDeep limit =>
    obtain ⟨readable, limit, deep⟩ := blames
    exact ⟨readable, limit, fun more p starts h => deep more p starts (narrows.keeps starts h)⟩

theorem bind_of_ok {x : Parser α} {f : α → Parser β} {a : α} {s s' : ParserState}
    (ran : x s = .ok a s') : (x >>= f) s = f a s' := by
  simp [Bind.bind, EStateM.bind, ran]

theorem bind_of_error {x : Parser α} {f : α → Parser β} {e : ParseError} {s s' : ParserState}
    (ran : x s = .error e s') : (x >>= f) s = .error e s' := by
  simp [Bind.bind, EStateM.bind, ran]

namespace Outcome

variable {before : Language π} {after : α → Language π → Prop} {stream : TokenStream}

-- Part of the way has been gone already: what was read led from all that might come to less.
theorem widen {narrow : Language π} {read : List Token}
    {result : EStateM.Result ParseError ParserState α}
    (outcome : Outcome fits narrow after stream result)
    (narrows : narrow.Narrows stream.lexeme (before.skip read)) :
    Outcome fits before after (stream.prepend read) result := by
  have further (more : List Token) : (before.skip read).skip more = before.skip (read ++ more) := by
    funext word p
    simp [Language.skip]
  cases result with
  | ok a s =>
    obtain ⟨readable, more, rest, rfl, holds, last⟩ := outcome
    refine ⟨readable, read ++ more, rest, (s.stream.prepend_append read more).symm, holds, ?_⟩
    exact further more ▸ last.trans narrows.skip
  | error e s =>
    obtain ⟨more, rfl, blames⟩ := outcome
    refine ⟨read ++ more, (s.stream.prepend_append read more).symm, ?_⟩
    exact further more ▸ blames.widen narrows.skip

theorem lookahead {narrow : Language π} {result : EStateM.Result ParseError ParserState α}
    (narrows : narrow.Narrows stream.lexeme before)
    (outcome : Outcome fits narrow after stream result) :
    Outcome fits before after stream result := by
  have nothingRead : narrow.Narrows stream.lexeme (before.skip []) := narrows
  exact outcome.widen nothingRead

theorem mono {after' : α → Language π → Prop} {result : EStateM.Result ParseError ParserState α}
    (outcome : Outcome fits before after stream result)
    (weaker : ∀ a rest, after a rest → after' a rest) : Outcome fits before after' stream result := by
  cases result with
  | ok a s =>
    obtain ⟨readable, read, rest, split, holds, narrows⟩ := outcome
    exact ⟨readable, read, rest, split, weaker a rest holds, narrows⟩
  | error e s => exact outcome

theorem pure {a : α} {s : ParserState} (readable : s.stream.Readable) (holds : after a before) :
    Outcome fits before after s.stream ((Pure.pure a : Parser α) s) :=
  ⟨readable, [], before, rfl, holds, .refl _ _⟩

theorem bind {x : Parser α} {f : α → Parser β} {final : β → Language π → Prop} {s : ParserState}
    (first : Outcome fits before after s.stream (x s))
    (second : ∀ a rest s', x s = .ok a s' → s'.stream.Readable → after a rest →
      Outcome fits rest final s'.stream (f a s')) :
    Outcome fits before final s.stream ((x >>= f) s) := by
  cases ran : x s with
  | ok a s' =>
    rw [ran] at first
    obtain ⟨readable, read, rest, split, holds, narrows⟩ := first
    rw [bind_of_ok ran, split]
    exact (second a rest s' ran readable holds).widen narrows
  | error e s' =>
    rw [ran] at first
    rw [bind_of_error ran]
    exact first

end Outcome

end

end MiniPascal
