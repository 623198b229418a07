import Mathlib.Data.List.Induction
import MiniPascal.Proofs.Token.Scan

set_option autoImplicit false

namespace MiniPascal

namespace Position

/-- The place behind a text: its newlines count the lines, and the characters behind the last of them
the columns. -/
def behind (text : List Char) : Position :=
  ⟨1 + text.count '\n', 1 + (text.reverse.takeWhile (· != '\n')).length⟩

theorem start_after (text : List Char) : start.after text = behind text := by
  induction text using List.reverseRecOn with
  | nil => rfl
  | append_singleton text c ih =>
    rw [after_append, ih]
    by_cases newline : c = '\n'
    next => simp [behind, next, newline, Nat.add_assoc]
    next => simp [behind, next, newline, Nat.add_assoc]

theorem behind_append (text more : List Char) : behind (text ++ more) = (behind text).after more := by
  rw [← start_after, ← start_after, after_append]

theorem after_line {text : List Char} (sameLine : '\n' ∉ text) (p : Position) :
    p.after text = ⟨p.line, p.column + text.length⟩ := by
  induction text generalizing p with
  | nil => rfl
  | cons c text ih =>
    obtain ⟨notNewline, sameLineBehind⟩ := not_or.1 (mt List.mem_cons.2 sameLine)
    rw [after_cons, next, if_neg (Ne.symm notNewline), ih sameLineBehind]
    simp only [List.length_cons]
    congr 1
    omega

end Position

section NoNewline

theorem newline_notMem {test : Char → Bool} {text : List Char} (all : text.all test)
    (refused : test '\n' = false) : '\n' ∉ text := by
  intro among
  have passed := List.all_eq_true.1 all '\n' among
  simp [refused] at passed

theorem isAlphanumeric_newline : Text.isAlphanumeric '\n' = false :=
  Text.isAlphanumeric_of_isWhiteSpace (by decide)

theorem Spells.noNewline {after spelling : List Char} {l : Lexeme} (spells : Spells after l spelling) :
    '\n' ∉ spelling := by
  cases spells with
  | keyword word _ => cases word <;> decide
  | identifier isName _ => exact newline_notMem (isIdentifier_iff.1 isName).2.1 isAlphanumeric_newline
  | integer _ areDigits _ _ _ => exact newline_notMem areDigits rfl
  | real _ areDigits _ placesDigits _ =>
    have inWhole := newline_notMem areDigits rfl
    have inPlaces := newline_notMem placesDigits rfl
    simp [inWhole, inPlaces]
  | colon _ => decide
  | @mark m _ => cases m <;> decide

theorem Scan.noNewline {skipped taken left : List Char} {found : Except LexFault Lexeme}
    (scan : Scan skipped taken left found) (noComment : found ≠ .error .unterminatedComment) :
    '\n' ∉ taken := by
  cases scan with
  | lexeme _ spells => exact spells.noNewline
  | atEnd _ | noLexeme _ _ _ => simp
  | tooLarge _ _ areDigits _ _ _ => exact newline_notMem areDigits rfl
  | unclosed _ _ => exact absurd rfl noComment

end NoNewline

namespace Lexer

inductive Call where
  | nextToken
  | next
deriving DecidableEq

def Call.run : Call → Lexer → Option (Except LexError Token) × Lexer
  | .nextToken, lexer => (some lexer.nextToken.1, lexer.nextToken.2)
  | .next, lexer => lexer.next

def perform (lexer : Lexer) : List Call → List (Option (Except LexError Token)) × Lexer
  | [] => ([], lexer)
  | call :: rest =>
    let (given, next) := call.run lexer
    let (others, last) := next.perform rest
    (given :: others, last)

def afterCalls (source : String) (calls : List Call) : Lexer :=
  ((ofSource source).perform calls).2

-- A call that gives something has moved the cursor by one token; one that gives nothing has not.
theorem nextToken_of_run {call : Call} {lexer next : Lexer} {result : Except LexError Token}
    (gives : call.run lexer = (some result, next)) :
    lexer.cursor.nextToken = (result, next.cursor) := by
  obtain ⟨cursor, finished⟩ := lexer
  cases call with
  | nextToken =>
    cases gives
    rfl
  | next =>
    cases finished with
    | true => cases gives
    | false =>
      cases gives
      rfl

theorem eq_of_run_none {call : Call} {lexer next : Lexer} (gives : call.run lexer = (none, next)) :
    next = lexer := by
  obtain ⟨cursor, finished⟩ := lexer
  cases call with
  | nextToken => cases gives
  | next =>
    cases finished with
    | true =>
      cases gives
      rfl
    | false => cases gives

structure Consumed (source : String) (lexer : Lexer) (consumed : List Char) : Prop where
  isFront : source.toList = consumed ++ lexer.cursor.rest
  place : lexer.cursor.position = .behind consumed

theorem consumed_ofSource (source : String) : Consumed source (ofSource source) [] :=
  ⟨rfl, rfl⟩

theorem Consumed.run {source : String} {lexer next : Lexer} {consumed : List Char} {call : Call}
    {result : Except LexError Token} (before : Consumed source lexer consumed)
    (gives : call.run lexer = (some result, next)) :
    ∃ skipped taken found, Scan skipped taken next.cursor.rest found ∧
      result = placed (.behind (consumed ++ skipped)) found ∧
      Consumed source next (consumed ++ skipped ++ taken) := by
  obtain ⟨skipped, taken, left, found, split, scan, scanned⟩ := lexer.cursor.nextToken_scans
  rw [before.place, ← Position.behind_append, ← Position.behind_append,
    nextToken_of_run gives] at scanned
  obtain ⟨isResult, isNext⟩ := Prod.mk.inj scanned
  refine ⟨skipped, taken, found, ?_, isResult, ?_, ?_⟩
  · rw [isNext]
    exact scan
  · rw [isNext, before.isFront, split]
    simp
  · rw [isNext, List.append_assoc]

theorem consumed_perform {source : String} {lexer : Lexer} {consumed : List Char}
    (before : Consumed source lexer consumed) (calls : List Call) :
    ∃ consumed', Consumed source (lexer.perform calls).2 consumed' := by
  induction calls generalizing lexer consumed with
  | nil => exact ⟨consumed, before⟩
  | cons call rest ih =>
    obtain ⟨consumed', after⟩ : ∃ consumed', Consumed source (call.run lexer).2 consumed' := by
      cases ran : call.run lexer with
      | mk given next =>
        cases given with
        | none => exact ⟨consumed, eq_of_run_none ran ▸ before⟩
        | some result =>
          obtain ⟨skipped, taken, found, -, -, after⟩ := before.run ran
          exact ⟨_, after⟩
    exact ih after

end Lexer

/-- Whatever calls were made, the lexer stands behind the characters it has consumed, which are a front
part of the source. What the next call gives then has the place where its first character stands: that
of the lexeme, of the number or of the brace; the end of the input comes behind all characters. A lexeme
never goes on in another line, so the column behind it is larger by its length. -/
theorem lexer_knows_its_place (source : String) (calls : List Lexer.Call) :
    ∃ consumed, source.toList = consumed ++ (Lexer.afterCalls source calls).cursor.rest ∧
      (Lexer.afterCalls source calls).cursor.position = .behind consumed ∧
      ∀ (call : Lexer.Call) (result : Except LexError Token) (next : Lexer),
        call.run (Lexer.afterCalls source calls) = (some result, next) →
        ∃ skipped taken found, Scan skipped taken next.cursor.rest found ∧
          source.toList = consumed ++ skipped ++ taken ++ next.cursor.rest ∧
          result = placed (.behind (consumed ++ skipped)) found ∧
          next.cursor.position = .behind (consumed ++ skipped ++ taken) ∧
          (found ≠ .error .unterminatedComment →
            next.cursor.position = ⟨(Position.behind (consumed ++ skipped)).line,
              (Position.behind (consumed ++ skipped)).column + taken.length⟩) := by
  obtain ⟨consumed, before⟩ := Lexer.consumed_perform (Lexer.consumed_ofSource source) calls
  refine ⟨consumed, before.isFront, before.place, fun call result next gives => ?_⟩
  obtain ⟨skipped, taken, found, scan, isResult, behind⟩ := before.run gives
  refine ⟨skipped, taken, found, scan, behind.isFront, isResult, behind.place, fun noComment => ?_⟩
  rw [behind.place, Position.behind_append, Position.after_line (scan.noNewline noComment)]

end MiniPascal
