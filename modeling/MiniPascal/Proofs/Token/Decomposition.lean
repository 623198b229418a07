import MiniPascal.Proofs.Token.Gap
import MiniPascal.Proofs.Token.Stream

set_option autoImplicit false

namespace MiniPascal

namespace Cursor

section NextToken

variable {cursor next : Cursor} {token : Token} {gap spelling after : List Char} {l : Lexeme}

theorem nextToken_of_spells (isGap : Gap gap) (spells : Spells after l spelling) (position : Position) :
    nextToken ⟨gap ++ (spelling ++ after), position⟩ =
      (.ok ⟨l, position.after gap⟩, ⟨after, position.after (gap ++ spelling)⟩) := by
  have skipped := skipGap_gap isGap (spells.ends_gap after) position
  have behind : (spelling ++ after).drop spelling.length = after := by simp
  have taken : (spelling ++ after).take spelling.length = spelling := by simp
  simp only [nextToken, skipped, munch_of_spells spells, advance, behind, taken, Position.after_append]

theorem nextToken_of_gap (isGap : Gap gap) (position : Position) :
    nextToken ⟨gap, position⟩ =
      (.ok ⟨.endOfInput, position.after gap⟩, ⟨[], position.after gap⟩) := by
  have skipped : skipGap none (gap ++ []) position = _ := skipGap_gap isGap rfl position
  rw [List.append_nil] at skipped
  simp only [nextToken, skipped]
  rfl

theorem cut_of_nextToken (read : cursor.nextToken = (.ok token, next)) :
    Gap cursor.rest ∨ ∃ gap spelling after l,
      Gap gap ∧ Spells after l spelling ∧ cursor.rest = gap ++ (spelling ++ after) := by
  unfold nextToken at read
  split at read
  next => cases read
  next here skipped =>
    obtain ⟨gap, isGap, split, -, -⟩ := gap_of_skipGap skipped
    cases text : here.rest with
    | nil =>
      rw [split, text, List.append_nil]
      exact .inl isGap
    | cons c rest =>
      simp only [text] at read
      cases found : (munch (c :: rest)).lexeme with
      | error fault =>
        rw [found] at read
        cases read
      | ok l =>
        obtain ⟨spelling, after, isSpelling, spells⟩ := spells_of_munch found
        exact .inr ⟨gap, spelling, after, l, isGap, spells, by rw [split, text, isSpelling]⟩

end NextToken

end Cursor

structure Piece where
  gap : List Char
  spelling : List Char
  lexeme : Lexeme

namespace Piece

def join : List Piece → List Char → List Char
  | [], last => last
  | piece :: rest, last => piece.gap ++ (piece.spelling ++ join rest last)

/-- Every piece is a gap and the spelling of a lexeme, which ends there, and the last gap is one. -/
def Cut : List Piece → List Char → Prop
  | [], last => Gap last
  | piece :: rest, last =>
    Gap piece.gap ∧ Spells (join rest last) piece.lexeme piece.spelling ∧ Cut rest last

def tokens : Position → List Piece → List Token
  | _, [] => []
  | position, piece :: rest =>
    ⟨piece.lexeme, position.after piece.gap⟩ ::
      tokens (position.after (piece.gap ++ piece.spelling)) rest

theorem cut_unique {these those : List Piece} {last last' : List Char} (cut : Cut these last)
    (cut' : Cut those last') (same : join these last = join those last') :
    these = those ∧ last = last' := by
  induction these generalizing those with
  | nil =>
    cases those with
    | nil => exact ⟨rfl, same⟩
    | cons piece rest =>
      have unequal := (Cursor.gap_unique cut cut'.1 rfl (cut'.2.1.ends_gap _)
        ((List.append_nil _).trans same)).2
      obtain ⟨c, more, spelling, -⟩ := cut'.2.1.head
      simp [spelling] at unequal
  | cons piece rest ih =>
    cases those with
    | nil =>
      have unequal := (Cursor.gap_unique cut.1 cut' (cut.2.1.ends_gap _) rfl
        (same.trans (List.append_nil _).symm)).2
      obtain ⟨c, more, spelling, -⟩ := cut.2.1.head
      simp [spelling] at unequal
    | cons piece' rest' =>
      obtain ⟨isGap, spells, cutRest⟩ := cut
      obtain ⟨isGap', spells', cutRest'⟩ := cut'
      obtain ⟨sameGap, sameText⟩ :=
        Cursor.gap_unique isGap isGap' (spells.ends_gap _) (spells'.ends_gap _) same
      obtain ⟨sameLexeme, sameSpelling, sameRest⟩ := spells_unique spells spells' sameText
      obtain ⟨rfl, sameLast⟩ := ih cutRest cutRest' sameRest
      cases piece
      cases piece'
      simp_all

end Piece

namespace TokenStream

theorem ofCursor_join {pieces : List Piece} {last : List Char} (cut : Piece.Cut pieces last)
    (position : Position) :
    ofCursor ⟨Piece.join pieces last, position⟩ =
      (ended (position.after (Piece.join pieces last))).prepend (Piece.tokens position pieces) := by
  induction pieces generalizing position with
  | nil => exact ofCursor_of_end (Cursor.nextToken_of_gap cut position) rfl
  | cons piece rest ih =>
    obtain ⟨isGap, spells, cutRest⟩ := cut
    have read := Cursor.nextToken_of_spells isGap spells position
    rw [Piece.join, ofCursor_of_token read spells.notEnd, ih cutRest, Piece.tokens, prepend_cons]
    simp only [Position.after_append]

theorem ofSource_join {source : String} {pieces : List Piece} {last : List Char}
    (cut : Piece.Cut pieces last) (same : source.toList = Piece.join pieces last) :
    ofSource source =
      (ended (Position.start.after source.toList)).prepend (Piece.tokens .start pieces) := by
  rw [ofSource, Cursor.ofSource, same]
  exact ofCursor_join cut .start

theorem cut_of_ofCursor {cursor : Cursor} {last : Position} {tokens : List Token}
    (read : ofCursor cursor = (ended last).prepend tokens) :
    ∃ pieces gap, Piece.Cut pieces gap ∧ cursor.rest = Piece.join pieces gap := by
  induction cursor using ofCursor.induct generalizing tokens with
  | case1 cursor e after failed =>
    rw [ofCursor_of_error failed] at read
    cases tokens <;> cases read
  | case2 cursor token next found isLast =>
    obtain ⟨text, position⟩ := cursor
    rcases Cursor.cut_of_nextToken found with isGap | ⟨gap, spelling, after, l, isGap, spells, rfl⟩
    · exact ⟨[], text, isGap, rfl⟩
    · rw [Cursor.nextToken_of_spells isGap spells] at found
      cases found
      exact absurd isLast spells.notEnd
  | case3 cursor token next found notLast _ ih =>
    obtain ⟨text, position⟩ := cursor
    rw [ofCursor_of_token found notLast] at read
    rcases Cursor.cut_of_nextToken found with isGap | ⟨gap, spelling, after, l, isGap, spells, rfl⟩
    · rw [Cursor.nextToken_of_gap isGap] at found
      cases found
      exact absurd rfl notLast
    · rw [Cursor.nextToken_of_spells isGap spells] at found
      cases found
      cases tokens with
      | nil => cases read
      | cons first tokens =>
        obtain ⟨pieces, last, cut, rfl⟩ := ih (TokenStream.next.inj read).2
        exact ⟨⟨gap, spelling, l⟩ :: pieces, last, ⟨isGap, spells, cut⟩, rfl⟩

theorem cut_of_ofSource {source : String} {last : Position} {tokens : List Token}
    (read : ofSource source = (ended last).prepend tokens) :
    ∃ pieces gap, Piece.Cut pieces gap ∧ source.toList = Piece.join pieces gap ∧
      tokens = Piece.tokens .start pieces ∧ last = Position.start.after source.toList := by
  obtain ⟨pieces, gap, cut, same⟩ := cut_of_ofCursor read
  have read' := ofCursor_join cut .start
  rw [← same] at read'
  exact ⟨pieces, gap, cut, same, ended_prepend_inj (read.symm.trans read')⟩

end TokenStream

/-- The lexer yields tokens and then the end of the input if the text is cut into gaps and lexemes: the
tokens are those of the cut, and the end is the end of the text. There is only one cut, and lexemes
other than numbers carry their spelling. -/
theorem lexer_yields_cut (source : String) :
    (∀ (tokens : List Token) (last : Position),
      (Lexer.ofSource source).Yields (tokens.map .ok ++ [.ok ⟨.endOfInput, last⟩]) ↔
        ∃ pieces gap, Piece.Cut pieces gap ∧ source.toList = Piece.join pieces gap ∧
          tokens = Piece.tokens .start pieces ∧ last = Position.start.after source.toList) ∧
    (∀ pieces gap pieces' gap', Piece.Cut pieces gap → Piece.Cut pieces' gap' →
      source.toList = Piece.join pieces gap → source.toList = Piece.join pieces' gap' →
        pieces = pieces' ∧ gap = gap') ∧
    ∀ after l spelling, Spells after l spelling → l.number? = none → l.text.toList = spelling := by
  refine ⟨fun tokens last => ?_, fun pieces gap pieces' gap' cut cut' same same' => ?_,
    fun after l spelling spells => spells.text⟩
  · constructor
    · intro yields
      have read := TokenStream.eq_prepend_of_toList (Lexer.yields_iff.1 yields).symm
      exact TokenStream.cut_of_ofSource read
    · rintro ⟨pieces, gap, cut, same, rfl, rfl⟩
      have read := TokenStream.ofCursor_join cut .start
      rw [← same] at read
      rw [Lexer.yields_iff, TokenStream.ofSource, Cursor.ofSource, read, TokenStream.toList_prepend]
      rfl
  · exact Piece.cut_unique cut cut' (same.symm.trans same')

end MiniPascal
