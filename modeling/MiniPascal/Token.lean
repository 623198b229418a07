import MiniPascal.Number
import MiniPascal.Token.Position

set_option autoImplicit false

namespace MiniPascal

inductive Keyword where
  | program
  | var
  | integer
  | real
  | blockBegin
  | blockEnd
  | div
deriving DecidableEq

inductive Mark where
  | assign
  | plus
  | minus
  | times
  | slash
  | openParen
  | closeParen
  | semicolon
  | colon
  | comma
  | dot
deriving DecidableEq

inductive TokenKind where
  | keyword (word : Keyword)
  | mark (mark : Mark)
  | identifier
  | integer
  | real
  | endOfInput
deriving DecidableEq

inductive Lexeme where
  | keyword (word : Keyword)
  | mark (mark : Mark)
  | identifier (name : String)
  | integer (value : Int64)
  | real (value : Float)
  | endOfInput
deriving Inhabited

structure Token where
  lexeme : Lexeme
  position : Position
deriving Inhabited

namespace Keyword

-- How the word is spelled; the case of its letters counts.
def spelling : Keyword → String
  | .program => "PROGRAM"
  | .var => "VAR"
  | .integer => "INTEGER"
  | .real => "REAL"
  | .blockBegin => "BEGIN"
  | .blockEnd => "END"
  | .div => "DIV"

def all : List Keyword :=
  [.program, .var, .integer, .real, .blockBegin, .blockEnd, .div]

def ofSpelling? (word : String) : Option Keyword :=
  all.find? (·.spelling == word)

end Keyword

namespace Mark

def spelling : Mark → String
  | .assign => ":="
  | .plus => "+"
  | .minus => "-"
  | .times => "*"
  | .slash => "/"
  | .openParen => "("
  | .closeParen => ")"
  | .semicolon => ";"
  | .colon => ":"
  | .comma => ","
  | .dot => "."

def all : List Mark :=
  [.assign, .plus, .minus, .times, .slash, .openParen, .closeParen, .semicolon, .colon, .comma, .dot]

-- The marks of one character that begin no longer mark.
def ofChar? : Char → Option Mark
  | ';' => some .semicolon
  | '.' => some .dot
  | '+' => some .plus
  | '-' => some .minus
  | '*' => some .times
  | '/' => some .slash
  | '(' => some .openParen
  | ')' => some .closeParen
  | ',' => some .comma
  | _ => none

end Mark

namespace TokenKind

def name : TokenKind → String
  | .keyword .div => "INTEGER_DIV"
  | .keyword word => word.spelling
  | .mark .assign => "ASSIGN"
  | .mark .plus => "PLUS"
  | .mark .minus => "MINUS"
  | .mark .times => "MUL"
  | .mark .slash => "FLOAT_DIV"
  | .mark .openParen => "LPAREN"
  | .mark .closeParen => "RPAREN"
  | .mark .semicolon => "SEMI"
  | .mark .colon => "COLON"
  | .mark .comma => "COMMA"
  | .mark .dot => "DOT"
  | .identifier => "ID"
  | .integer => "INTEGER_CONST"
  | .real => "REAL_CONST"
  | .endOfInput => "EOF"

def all : List TokenKind :=
  Keyword.all.map .keyword ++ Mark.all.map .mark ++ [.identifier, .integer, .real, .endOfInput]

def ofName? (name : String) : Option TokenKind :=
  all.find? (·.name == name)

end TokenKind

namespace Lexeme

def kind : Lexeme → TokenKind
  | .keyword word => .keyword word
  | .mark m => .mark m
  | .identifier _ => .identifier
  | .integer _ => .integer
  | .real _ => .real
  | .endOfInput => .endOfInput

def number? : Lexeme → Option Number
  | .integer value => some (.integer value)
  | .real value => some (.real value)
  | _ => none

/-- Real literals are written out in full: no exponent, and no places where there are none. -/
def realStyle : RealStyle :=
  ⟨fun _ => true, ""⟩

def text : Lexeme → String
  | .keyword word => word.spelling
  | .mark m => m.spelling
  | .identifier name => name
  | .integer value => toString value.toInt
  | .real value => realStyle.text value
  | .endOfInput => "None"

end Lexeme

namespace Token

def kind (t : Token) : TokenKind :=
  t.lexeme.kind

def text (t : Token) : String :=
  "Token(" ++ t.kind.name ++ ", " ++ t.lexeme.text ++ ")"

end Token

end MiniPascal
