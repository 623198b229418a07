import MiniPascal.Proofs.Parser.Acceptance

set_option autoImplicit false

namespace MiniPascal

open MiniPascal.Parser

/-- Kinds of tokens with which a sentence may begin, the end of the input behind it included. -/
def Viable (kinds : List TokenKind) : Prop :=
  ∃ d : Derivation .program, kinds <+: d.kinds ++ [.endOfInput]

theorem sentences_of_kinds {front : List Lexeme} {d : Derivation .program}
    (starts : front.map Lexeme.kind <+: d.kinds ++ [.endOfInput]) :
    ∃ more other, sentences (front ++ more) other ∧ other.depth = d.depth := by
  obtain ⟨rest, same⟩ := starts
  -- The lexemes that come behind are those of the sentence we have.
  let more := (d.lexemes ++ [Lexeme.endOfInput]).drop front.length
  have kinds : (d.lexemes ++ [Lexeme.endOfInput]).map Lexeme.kind = front.map Lexeme.kind ++ rest := by
    rw [same, List.map_append]
    rfl
  have sameKinds : SameKinds (front ++ more) (d.lexemes ++ [.endOfInput]) := by
    rw [SameKinds, List.map_append, List.map_drop, kinds]
    simp
  obtain ⟨these, end_, split, sameSentence, sameEnd⟩ := sameKinds.append
  obtain ⟨_, rfl, nothingMore⟩ := sameEnd.fixed rfl
  obtain rfl := nothingMore.nil
  obtain ⟨other, rfl, depth⟩ := d.relabel sameSentence
  exact ⟨more, other, split, depth⟩

section

variable {read : List Token} {front more : List Lexeme} {d : Derivation .program}

theorem map_kind_append :
    (read.map Token.lexeme ++ front).map Lexeme.kind =
      read.map Token.kind ++ front.map Lexeme.kind := by
  rw [List.map_append, List.map_map]
  rfl

theorem viable_of_skip (front : List Lexeme) (sentence : sentences.skip read (front ++ more) d) :
    Viable (read.map Token.kind ++ front.map Lexeme.kind) := by
  refine ⟨d, more.map Lexeme.kind, ?_⟩
  have same : read.map Token.lexeme ++ (front ++ more) = d.lexemes ++ [.endOfInput] := sentence
  rw [← map_kind_append, ← List.map_append, List.append_assoc, same, List.map_append]
  rfl

theorem skip_of_kinds (front : List Lexeme)
    (starts : read.map Token.kind ++ front.map Lexeme.kind <+: d.kinds ++ [.endOfInput]) :
    ∃ more other, sentences.skip read (front ++ more) other ∧ other.depth = d.depth := by
  rw [← map_kind_append] at starts
  obtain ⟨more, other, sentence, depth⟩ := sentences_of_kinds starts
  exact ⟨more, other, (List.append_assoc _ _ _).symm.trans sentence, depth⟩

end

section

variable {stream : TokenStream} {s s' : ParserState}

theorem toList_of_readable (readable : stream.Readable) :
    ∃ token after, stream.toList = .ok token :: after ∧ token.lexeme = stream.lexeme ∧
      token.kind = stream.kind ∧ token.position = stream.position := by
  cases stream with
  | ended position => exact ⟨⟨.endOfInput, position⟩, [], rfl, rfl, rfl, rfl⟩
  | next token rest => exact ⟨token, rest.toList, rfl, rfl, rfl, rfl⟩
  | broken e => cases readable

theorem source_of_parse_error {text : String} {e : ParseError}
    (failed : (Stage.parse text).result = .error (.parse e)) :
    ∃ s, source (TokenStream.ofSource text) ⟨TokenStream.ofSource text, [.lexing text]⟩ =
      .error e s := by
  simp only [Stage.parse] at failed
  split at failed
  next => cases failed
  next s ran =>
    cases failed
    exact ⟨s, ran⟩

theorem source_error {e : ParseError} (failed : source stream s = .error e s') :
    ∃ read, stream = s'.stream.prepend read ∧
      Blames (·.depth ≤ maxDepth) (sentences.skip read) s'.stream e := by
  have outcome : Outcome _ _ _ _ (source stream s) := source_outcome
  rw [failed] at outcome
  exact outcome

end

/-- An unexpected token is the first one that no sentence has in this place, and some sentence has the
expected one there. A lexical error comes behind the beginning of a sentence. If the limit is hit, no
accepted text has the tokens read so far. -/
theorem parse_error_at_first_hopeless_token (text : String) :
    (∀ expected found position,
      (Stage.parse text).result = .error (.parse (.unexpected expected found position)) →
      ∃ (before : List Token) (token : Token) (after : List (Except LexError Token)),
        (TokenStream.ofSource text).toList = before.map .ok ++ .ok token :: after ∧
        found = token.kind ∧ position = token.position ∧
        Viable (before.map Token.kind) ∧
        ¬ Viable (before.map Token.kind ++ [token.kind]) ∧
        Viable (before.map Token.kind ++ [expected])) ∧
    (∀ e, (Stage.parse text).result = .error (.parse (.lexical e)) →
      ∃ before : List Token, (TokenStream.ofSource text).toList = before.map .ok ++ [.error e] ∧
        Viable (before.map Token.kind)) ∧
    ∀ limit, (Stage.parse text).result = .error (.parse (.tooDeep limit)) →
      ∃ (s : ParserState) (before : List Token) (token : Token) (after : List (Except LexError Token)),
        source (TokenStream.ofSource text) ⟨TokenStream.ofSource text, [.lexing text]⟩ =
          .error (.tooDeep limit) s ∧
        s.stream.toList = .ok token :: after ∧
        (TokenStream.ofSource text).toList = before.map .ok ++ .ok token :: after ∧
        ∀ other p, (Stage.parse other).result = .ok p →
          ¬ before.map Token.kind ++ [token.kind] <+:
            (TokenStream.ofSource other).tokens.map Token.kind ++ [.endOfInput] := by
  refine ⟨fun expected found position failed => ?_, fun e failed => ?_, fun limit failed => ?_⟩
  · obtain ⟨s, ran⟩ := source_of_parse_error failed
    obtain ⟨read, split, readable, rfl, rfl, ⟨l, more, d, rfl, viable⟩, dead⟩ := source_error ran
    obtain ⟨token, after, here, lexeme, kind, place⟩ := toList_of_readable readable
    refine ⟨read, token, after, ?_, kind.symm, place.symm, ?_, ?_, ?_⟩
    · rw [split, TokenStream.toList_prepend, here]
    · exact List.append_nil (read.map Token.kind) ▸ viable_of_skip [] viable
    · rintro ⟨other, starts⟩
      obtain ⟨more, other, sentence, -⟩ := skip_of_kinds [token.lexeme] starts
      exact dead (token.lexeme :: more) other (congrArg some lexeme) sentence
    · exact viable_of_skip [l] viable
  · obtain ⟨s, ran⟩ := source_of_parse_error failed
    obtain ⟨read, split, broken, more, d, viable⟩ := source_error ran
    refine ⟨read, ?_, List.append_nil (read.map Token.kind) ▸ viable_of_skip [] viable⟩
    rw [split, TokenStream.toList_prepend, broken]
    rfl
  · obtain ⟨s, ran⟩ := source_of_parse_error failed
    obtain ⟨read, split, readable, -, deep⟩ := source_error ran
    obtain ⟨token, after, here, lexeme, kind, place⟩ := toList_of_readable readable
    refine ⟨s, read, token, after, ran, here, ?_, fun other p accepted starts => ?_⟩
    · rw [split, TokenStream.toList_prepend, here]
    · obtain ⟨_, -, d, sentence, fits, -⟩ := parse_ok_iff.1 accepted
      have kinds : d.kinds = (TokenStream.ofSource other).tokens.map Token.kind := by
        rw [Derivation.kinds, sentence, List.map_map]
        rfl
      obtain ⟨more, found, sentence, depth⟩ := skip_of_kinds [token.lexeme] (kinds ▸ starts)
      have foundFits : found.depth ≤ maxDepth := by omega
      exact deep (token.lexeme :: more) found (congrArg some lexeme) sentence foundFits

end MiniPascal
