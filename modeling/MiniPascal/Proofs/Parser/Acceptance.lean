import MiniPascal.Stage
import MiniPascal.Proofs.Parser.Productions
import MiniPascal.Proofs.Token.Rendering

set_option autoImplicit false

namespace MiniPascal

open MiniPascal.Parser

def sentences : Language (Derivation .program) :=
  fun word d => word = d.lexemes ++ [.endOfInput]

def Finished (room : Nat) (p : Program) (rest : Language (Derivation .program)) : Prop :=
  ∃ d : Derivation .program, d.tree = p ∧ d.depth ≤ room ∧
    rest = fun more e => more = [.endOfInput] ∧ e = d

def wholeInput (tokens : List Token) : List Lexeme :=
  tokens.map Token.lexeme ++ [.endOfInput]

theorem head?_wholeInput (tokens : List Token) (position : Position) :
    (wholeInput tokens).head? = some ((TokenStream.ended position).prepend tokens).lexeme :=
  TokenStream.head?_append_lexeme rfl

section

variable {room : Nat} {s : ParserState} {stream : TokenStream}

theorem program_outcome (readable : s.stream.Readable) :
    Outcome (·.depth ≤ room) sentences (Finished room) s.stream (program room s) := by
  let next (d : Derivation .program) : Language (Derivation .program) :=
    fun more e => more = [.endOfInput] ∧ e = d
  have allows : (Phrase.of .program room).Allows (·.depth ≤ room) next :=
    ⟨fun h => ⟨.endOfInput, by rw [h.1]; rfl, trivial⟩, fun d => ⟨_, d, rfl, rfl⟩,
      fun h fits => h.2 ▸ fits⟩
  have narrows : ((Phrase.of .program room).followed next).Narrows s.stream.lexeme sentences := by
    constructor
    · rintro _ _ ⟨d, _, rfl, rfl, rfl⟩
      rfl
    · rintro _ d - rfl
      exact ⟨d, _, rfl, rfl, rfl⟩
  refine .lookahead narrows ((Phrase.program_readBy room s readable allows).mono ?_)
  rintro _ _ ⟨d, rfl, fits, rfl⟩
  exact ⟨d, rfl, fits, rfl⟩

theorem finish_of_end (p : Program) (atEnd : s.stream.kind = .endOfInput) :
    finish p s = .ok p { s with log := .parsed p.name :: s.log } := by
  rw [finish, Phrase.current_bind, if_pos atEnd]
  rfl

theorem finish_of_token (p : Program) (notEnd : s.stream.kind ≠ .endOfInput) :
    finish p s = unexpected .endOfInput s := by
  rw [finish, Phrase.current_bind, if_neg notEnd]

theorem source_of_readable (readable : stream.Readable) :
    ∃ log, source stream s = (do finish (← program maxDepth)) ⟨stream, log⟩ := by
  cases stream with
  | ended position => exact ⟨s.log, rfl⟩
  | next token rest => exact ⟨.token token :: s.log, rfl⟩
  | broken e => cases readable

theorem source_outcome :
    Outcome (·.depth ≤ maxDepth) sentences (Finished maxDepth) stream (source stream s) := by
  by_cases readable : stream.Readable
  next =>
    obtain ⟨log, same⟩ := source_of_readable (s := s) readable
    rw [same]
    refine .bind (s := ⟨stream, log⟩) (program_outcome readable) ?_
    rintro _ _ s' - readable' ⟨d, rfl, fits, rfl⟩
    by_cases atEnd : s'.stream.kind = .endOfInput
    next =>
      rw [finish_of_end d.tree atEnd]
      exact ⟨readable', [], _, rfl, ⟨d, rfl, fits, rfl⟩, .refl _ _⟩
    next =>
      rw [finish_of_token d.tree atEnd]
      refine Phrase.outcome_unexpected (l := .endOfInput) readable' _ _ ⟨[], d, rfl, rfl⟩ ?_
      rintro _ _ starts ⟨rfl, -⟩
      obtain same : .endOfInput = s'.stream.lexeme := Option.some.inj starts
      exact atEnd (by rw [← s'.stream.kind_lexeme, ← same]; rfl)
  next =>
    cases stream with
    | ended position | next token rest => exact absurd trivial readable
    | broken e =>
      let d : Derivation .program := .program "" (.block [] (.compound .empty .noStatements))
      have sentence : sentences (d.lexemes ++ [.endOfInput]) d := rfl
      exact ⟨[], rfl, rfl, _, d, sentence⟩

-- Where a reading is still to come, the only error that is borne out is that it does not fit.
theorem Blames.of_reading {π : Type} {fits : π → Prop} {language : Language π} {p : π}
    {position : Position} {tokens : List Token} {e : ParseError}
    (reading : language (wholeInput tokens) p)
    (blames : Blames fits language ((TokenStream.ended position).prepend tokens) e) :
    e = .tooDeep maxDepth ∧ ¬ fits p := by
  have starts := head?_wholeInput tokens position
  cases e with
  | unexpected expected found position => exact absurd reading (blames.2.2.2.2 _ p starts)
  | lexical error => cases tokens <;> cases blames.1
  | tooDeep limit => exact ⟨congrArg _ blames.2.1, blames.2.2 _ p starts reading⟩

theorem program_ok {position : Position} {tokens : List Token} {d : Derivation .program}
    (here : s.stream = (TokenStream.ended position).prepend tokens)
    (sentence : d.lexemes = tokens.map Token.lexeme) (fits : d.depth ≤ room) :
    ∃ s', program room s = .ok d.tree s' ∧ s'.stream = .ended position ∧
      ∀ other : Derivation .program, other.lexemes = tokens.map Token.lexeme → other = d := by
  have readable : s.stream.Readable := by rw [here]; cases tokens <;> trivial
  have outcome : Outcome _ _ _ _ (program room s) := program_outcome readable
  cases ran : program room s with
  | error e s' =>
    rw [ran] at outcome
    obtain ⟨read, split, blames⟩ := outcome
    obtain ⟨more, rfl, rest⟩ := TokenStream.of_ended_prepend_eq (here ▸ split)
    rw [rest] at blames
    have reading : sentences.skip read (wholeInput more) d := by
      simp [Language.skip, sentences, sentence, wholeInput]
    exact absurd fits (blames.of_reading reading).2
  | ok p s' =>
    rw [ran] at outcome
    obtain ⟨-, read, _, split, ⟨found, rfl, -, rfl⟩, narrows⟩ := outcome
    obtain ⟨more, rfl, rest⟩ := TokenStream.of_ended_prepend_eq (here ▸ split)
    have starts : (wholeInput more).head? = some s'.stream.lexeme := rest ▸ head?_wholeInput more position
    have only (other : Derivation .program)
        (same : other.lexemes = (read ++ more).map Token.lexeme) : more = [] ∧ other = found := by
      have reading : sentences.skip read (wholeInput more) other := by
        simp [Language.skip, sentences, same, wholeInput]
      simpa [wholeInput] using narrows.keeps starts reading
    obtain ⟨rfl, rfl⟩ := only d sentence
    exact ⟨s', rfl, rest, fun other same => (only other same).2⟩

theorem source_ok_atEnd {p : Program} {s' : ParserState} (ran : source stream s = .ok p s') :
    s'.stream.kind = .endOfInput := by
  by_cases readable : stream.Readable
  next =>
    obtain ⟨log, same⟩ := source_of_readable (s := s) readable
    rw [same] at ran
    cases parsed : program maxDepth ⟨stream, log⟩ with
    | error e s₁ =>
      rw [bind_of_error parsed] at ran
      cases ran
    | ok q s₁ =>
      rw [bind_of_ok parsed] at ran
      by_cases atEnd : s₁.stream.kind = .endOfInput
      next =>
        rw [finish_of_end q atEnd] at ran
        cases ran
        exact atEnd
      next =>
        rw [finish_of_token q atEnd] at ran
        cases ran
  next =>
    cases stream with
    | ended position | next token rest => exact absurd trivial readable
    | broken e => cases ran

theorem source_ok {p : Program} {s' : ParserState} (ran : source stream s = .ok p s')
    (proper : stream.Proper) :
    ∃ position tokens, stream = (TokenStream.ended position).prepend tokens ∧
      ∃ d : Derivation .program,
        d.lexemes = tokens.map Token.lexeme ∧ d.depth ≤ maxDepth ∧ d.tree = p := by
  have outcome : Outcome _ _ _ _ (source stream s) := source_outcome
  rw [ran] at outcome
  obtain ⟨readable', read, _, rfl, ⟨d, rfl, fits, rfl⟩, narrows⟩ := outcome
  have itself : sentences.skip read [.endOfInput] d := narrows.within ⟨rfl, rfl⟩
  obtain ⟨position, ended⟩ := proper.of_prepend.eq_ended readable' (source_ok_atEnd ran)
  exact ⟨position, read, by rw [ended], d, (List.append_cancel_right itself).symm, fits, rfl⟩

theorem source_of_sentence {position : Position} {tokens : List Token} {d : Derivation .program}
    (sentence : d.lexemes = tokens.map Token.lexeme) (fits : d.depth ≤ maxDepth) :
    ∃ s', source ((TokenStream.ended position).prepend tokens) s = .ok d.tree s' := by
  have readable : ((TokenStream.ended position).prepend tokens).Readable := by cases tokens <;> trivial
  obtain ⟨log, same⟩ := source_of_readable (s := s) readable
  obtain ⟨s', parsed, ended, -⟩ := program_ok (s := ⟨_, log⟩) rfl sentence fits
  have atEnd : s'.stream.kind = .endOfInput := by rw [ended]; rfl
  exact ⟨_, same.trans ((bind_of_ok parsed).trans (finish_of_end d.tree atEnd))⟩

end

theorem Derivation.lexemes_injective {d other : Derivation .program}
    (same : other.lexemes = d.lexemes) : other = d := by
  let tokens : List Token := d.lexemes.map (⟨·, default⟩)
  have sentence : d.lexemes = tokens.map Token.lexeme := by simp [tokens, Function.comp_def]
  let s : ParserState := ⟨(TokenStream.ended default).prepend tokens, []⟩
  obtain ⟨-, -, -, only⟩ := program_ok (s := s) rfl sentence (Nat.le_refl d.depth)
  exact only other (same.trans sentence)

theorem Derivation.depth_eq_of_kinds {d other : Derivation .program} (same : other.kinds = d.kinds) :
    other.depth = d.depth := by
  obtain ⟨third, lexemes, depth⟩ := d.relabel same
  rw [← depth, Derivation.lexemes_injective lexemes]

theorem parse_ok_iff {text : String} {p : Program} :
    (Stage.parse text).result = .ok p ↔
      ∃ position, TokenStream.ofSource text =
        (TokenStream.ended position).prepend (TokenStream.ofSource text).tokens ∧
        ∃ d : Derivation .program, d.lexemes = (TokenStream.ofSource text).tokens.map Token.lexeme ∧
          d.depth ≤ maxDepth ∧ d.tree = p := by
  have proper := TokenStream.proper_ofSource text
  simp only [Stage.parse]
  generalize TokenStream.ofSource text = stream at proper ⊢
  constructor
  · intro accepted
    split at accepted
    next ran =>
      cases accepted
      obtain ⟨position, tokens, rfl, d, sentence, fits, rfl⟩ := source_ok ran proper
      refine ⟨position, ?_, d, ?_, fits, rfl⟩
      · simp [TokenStream.tokens]
      · simpa [TokenStream.tokens] using sentence
    next => cases accepted
  · rintro ⟨position, same, d, sentence, fits, rfl⟩
    have parsed (s : ParserState) : ∃ s', source stream s = .ok d.tree s' := by
      rw [same]
      exact source_of_sentence sentence fits
    obtain ⟨s', ran⟩ := parsed ⟨stream, [.lexing text]⟩
    rw [ran]

theorem parse_of_sentence {text : String} {last : Position} {tokens : List Token}
    {d : Derivation .program}
    (read : TokenStream.ofSource text = (TokenStream.ended last).prepend tokens)
    (sentence : d.lexemes = tokens.map Token.lexeme) (fits : d.depth ≤ maxDepth) :
    (Stage.parse text).result = .ok d.tree := by
  refine parse_ok_iff.2 ⟨last, ?_, d, ?_, fits, rfl⟩
  · simp [read, TokenStream.tokens]
  · simp [read, TokenStream.tokens, sentence]

theorem parse_render {d : Derivation .program} (plain : ∀ l ∈ d.lexemes, l.Plain)
    (fits : d.depth ≤ maxDepth) :
    (Stage.parse (String.ofList (render d.lexemes))).result = .ok d.tree := by
  have layout : Layout d.lexemes (String.ofList (render d.lexemes)).toList := by
    rw [String.toList_ofList]
    exact layout_render d.lexemes
  obtain ⟨last, tokens, read, lexemes⟩ := ofSource_layout plain layout
  exact parse_of_sentence read lexemes.symm fits

/-- A text is accepted if it has no lexical error and its tokens are, by their kinds, a sentence that
nests no deeper than the limit; and then the program is the tree of its only derivation. -/
theorem parse_accepts_sentences (text : String) :
    ((∃ p, (Stage.parse text).result = .ok p) ↔
      (∀ e, .error e ∉ (TokenStream.ofSource text).toList) ∧
        ∃ d : Derivation .program, d.kinds = (TokenStream.ofSource text).tokens.map Token.kind ∧
          d.depth ≤ maxDepth) ∧
    (∀ p, (Stage.parse text).result = .ok p →
      ∃ d : Derivation .program, d.lexemes = (TokenStream.ofSource text).tokens.map Token.lexeme ∧
        d.tree = p ∧
        ∀ other : Derivation .program,
          other.lexemes = (TokenStream.ofSource text).tokens.map Token.lexeme → other = d) ∧
    ∀ d other : Derivation .program, d.kinds = other.kinds → d.depth = other.depth := by
  refine ⟨⟨?_, ?_⟩, ?_, fun d other same => Derivation.depth_eq_of_kinds same⟩
  · rintro ⟨p, accepted⟩
    obtain ⟨position, ended, d, sentence, fits, -⟩ := parse_ok_iff.1 accepted
    refine ⟨TokenStream.noError_iff.2 ⟨position, ended⟩, d, ?_, fits⟩
    rw [Derivation.kinds, sentence, List.map_map]
    rfl
  · rintro ⟨noError, d, kinds, fits⟩
    obtain ⟨position, ended⟩ := TokenStream.noError_iff.1 noError
    have same : SameKinds ((TokenStream.ofSource text).tokens.map Token.lexeme) d.lexemes := by
      rw [SameKinds, List.map_map]
      exact kinds.symm
    obtain ⟨found, sentence, depth⟩ := d.relabel same
    exact ⟨found.tree, parse_ok_iff.2 ⟨position, ended, found, sentence.symm, depth ▸ fits, rfl⟩⟩
  · intro p accepted
    obtain ⟨position, ended, d, sentence, fits, tree⟩ := parse_ok_iff.1 accepted
    exact ⟨d, sentence, tree, fun other same => Derivation.lexemes_injective (same.trans sentence.symm)⟩

end MiniPascal
