import MiniPascal.Proofs.Token.Decomposition

set_option autoImplicit false

namespace MiniPascal

-- No lexeme goes on in this text: it is empty or starts with a gap.
def Breaks (text : List Char) : Prop :=
  ∀ c ∈ text.head?, opensGap c

theorem Breaks.goesOn {text : List Char} {test : Char → Bool} (breaks : Breaks text)
    (apart : ∀ {c}, opensGap c → test c = false) : goesOn test text = false := by
  cases text with
  | nil => rfl
  | cons c text => exact apart (breaks c rfl)

theorem Breaks.goesOnAsReal {text : List Char} (breaks : Breaks text) : goesOnAsReal text = false := by
  unfold MiniPascal.goesOnAsReal
  split
  next => cases breaks '.' rfl
  next => rfl

theorem Gap.breaks {gap : List Char} (isGap : Gap gap) : Breaks gap := by
  cases isGap with
  | nil => simp [Breaks]
  | blank isBlank more => simp [Breaks, opensGap, isBlank]
  | comment noClose more => simp [Breaks, opensGap]

theorem Breaks.append {gap : List Char} (breaks : Breaks gap) (nonempty : gap ≠ [])
    (text : List Char) : Breaks (gap ++ text) := by
  obtain ⟨c, rest, rfl⟩ := List.exists_cons_of_ne_nil nonempty
  exact breaks

theorem Spells.spaced {after after' spelling : List Char} {l : Lexeme}
    (spells : Spells after l spelling) (breaks : Breaks after') : Spells after' l spelling := by
  have noWord := breaks.goesOn isAlphanumeric_of_opensGap
  have noDigit := breaks.goesOn isDigit_of_opensGap
  cases spells with
  | keyword word _ => exact .keyword word noWord
  | identifier isName _ => exact .identifier isName noWord
  | integer nonempty areDigits means _ _ =>
    exact .integer nonempty areDigits means noDigit breaks.goesOnAsReal
  | real nonempty areDigits hasPlaces placesDigits _ =>
    exact .real nonempty areDigits hasPlaces placesDigits noDigit
  | colon _ =>
    refine .colon (breaks.goesOn fun opens => beq_eq_false_iff_ne.2 ?_)
    rintro rfl
    cases opens
  | mark notColon => exact .mark notColon

namespace Piece

structure Spaced (pieces : List Piece) (last : List Char) : Prop where
  areGaps : ∀ piece ∈ pieces, Gap piece.gap
  isGap : Gap last
  apart : ∀ piece ∈ pieces.tail, piece.gap ≠ []

theorem Spaced.tail {piece : Piece} {rest : List Piece} {last : List Char}
    (spaced : Spaced (piece :: rest) last) : Spaced rest last :=
  ⟨fun other among => spaced.areGaps other (List.mem_cons_of_mem _ among), spaced.isGap,
    fun other among => spaced.apart other (List.mem_of_mem_tail among)⟩

theorem Spaced.breaks {piece : Piece} {rest : List Piece} {last : List Char}
    (spaced : Spaced (piece :: rest) last) : Breaks (join rest last) := by
  cases rest with
  | nil => exact spaced.isGap.breaks
  | cons next rest =>
    have isGap := spaced.areGaps next (List.mem_cons_of_mem _ List.mem_cons_self)
    exact isGap.breaks.append (spaced.apart next List.mem_cons_self) _

theorem cut_of_spaced {pieces : List Piece} {last : List Char} (spaced : Spaced pieces last)
    (spelled : ∀ piece ∈ pieces, ∃ after, Spells after piece.lexeme piece.spelling) :
    Cut pieces last := by
  induction pieces with
  | nil => exact spaced.isGap
  | cons piece rest ih =>
    obtain ⟨after, spells⟩ := spelled piece List.mem_cons_self
    have isGap := spaced.areGaps piece List.mem_cons_self
    have cut := ih spaced.tail fun other among => spelled other (List.mem_cons_of_mem _ among)
    exact ⟨isGap, spells.spaced spaced.breaks, cut⟩

theorem lexemes_tokens (position : Position) (pieces : List Piece) :
    (tokens position pieces).map Token.lexeme = pieces.map lexeme := by
  induction pieces generalizing position with
  | nil => rfl
  | cons piece rest ih => simp [tokens, ih]

end Piece

/-- The text has these lexemes in this order, each written as its text, with a gap between any two and
perhaps one before the first and behind the last. -/
def Layout (lexemes : List Lexeme) (text : List Char) : Prop :=
  ∃ pieces last, Piece.Spaced pieces last ∧ pieces.map Piece.lexeme = lexemes ∧
    (∀ piece ∈ pieces, piece.spelling = piece.lexeme.text.toList) ∧ text = Piece.join pieces last

def Lexeme.Plain (l : Lexeme) : Prop :=
  Spells [] l l.text.toList

namespace Lexeme

theorem plain_keyword (word : Keyword) : (keyword word).Plain :=
  .keyword word rfl

theorem plain_identifier {name : String} (isName : IsIdentifier name) : (identifier name).Plain :=
  .identifier isName rfl

theorem plain_mark (m : Mark) : (mark m).Plain := by
  by_cases isColon : m = .colon
  next =>
    rw [isColon]
    exact .colon rfl
  next => exact .mark isColon

theorem plain_integer {value : Int64} (natural : 0 ≤ value.toInt) : (integer value).Plain := by
  obtain ⟨n, same⟩ := Int.eq_ofNat_of_zero_le natural
  have digits : (integer value).text.toList = Nat.toDigits 10 n := by
    rw [text, same]
    exact Nat.toList_repr
  unfold Plain
  rw [digits]
  refine .integer ?_ ?_ ?_ rfl rfl
  · exact Nat.toDigits_ne_nil
  · exact List.all_eq_true.2 fun c among => Nat.isDigit_of_mem_toDigits (by decide) (by decide) among
  · rw [Nat.ofDigitChars_ten_toDigits, same]

end Lexeme

theorem ofSource_layout {lexemes : List Lexeme} {text : String} (plain : ∀ l ∈ lexemes, l.Plain)
    (layout : Layout lexemes text.toList) :
    ∃ last tokens, TokenStream.ofSource text = (TokenStream.ended last).prepend tokens ∧
      tokens.map Token.lexeme = lexemes := by
  obtain ⟨pieces, last, spaced, rfl, spelled, same⟩ := layout
  have cut := Piece.cut_of_spaced spaced fun piece among =>
    ⟨[], spelled piece among ▸ plain _ (List.mem_map_of_mem among)⟩
  exact ⟨_, _, TokenStream.ofSource_join cut same, Piece.lexemes_tokens _ _⟩

/-- The same lexemes in the same order, spelled as they are in the first text. The second text has a gap
between any two of them, and perhaps one before the first and behind the last. -/
def Relaid (text text' : List Char) : Prop :=
  ∃ pieces last others last', Piece.Cut pieces last ∧ text = Piece.join pieces last ∧
    Piece.Spaced others last' ∧ text' = Piece.join others last' ∧
      others.map Piece.spelling = pieces.map Piece.spelling

-- Only the spellings of the other pieces are known, not what they are read as.
theorem Piece.exists_cut_of_spaced {pieces others : List Piece} {last last' : List Char}
    (cut : Cut pieces last) (spaced : Spaced others last')
    (same : others.map spelling = pieces.map spelling) :
    ∃ found, Cut found last' ∧ join found last' = join others last' ∧
      found.map lexeme = pieces.map lexeme := by
  induction pieces generalizing others with
  | nil =>
    obtain rfl : others = [] := List.map_eq_nil_iff.1 same
    exact ⟨[], spaced.isGap, rfl, rfl⟩
  | cons piece rest ih =>
    obtain ⟨other, more, rfl, sameSpelling, sameRest⟩ := List.map_eq_cons_iff.1 same
    obtain ⟨isGap, spells, cutRest⟩ := cut
    obtain ⟨found, cutFound, sameText, lexemes⟩ := ih cutRest spaced.tail sameRest
    have breaks : Breaks (join found last') := sameText ▸ spaced.breaks
    refine ⟨⟨other.gap, piece.spelling, piece.lexeme⟩ :: found, ?_, ?_, ?_⟩
    · exact ⟨spaced.areGaps other List.mem_cons_self, spells.spaced breaks, cutFound⟩
    · rw [join, join, sameText, sameSpelling]
    · rw [List.map_cons, List.map_cons, lexemes]

theorem ofSource_relaid {text text' : String} (relaid : Relaid text.toList text'.toList) :
    ∃ last tokens last' tokens', TokenStream.ofSource text = (TokenStream.ended last).prepend tokens ∧
      TokenStream.ofSource text' = (TokenStream.ended last').prepend tokens' ∧
        tokens.map Token.lexeme = tokens'.map Token.lexeme := by
  obtain ⟨pieces, gap, others, gap', cut, same, spaced, same', spellings⟩ := relaid
  obtain ⟨found, cutFound, sameText, lexemes⟩ := Piece.exists_cut_of_spaced cut spaced spellings
  have read := TokenStream.ofSource_join cut same
  have read' := TokenStream.ofSource_join cutFound (same'.trans sameText.symm)
  refine ⟨_, _, _, _, read, read', ?_⟩
  rw [Piece.lexemes_tokens, Piece.lexemes_tokens, lexemes]

end MiniPascal
