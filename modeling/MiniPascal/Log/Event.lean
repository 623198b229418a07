import MiniPascal.Log.Record
import MiniPascal.Naming.Symbol
import MiniPascal.Text.Quoted
import MiniPascal.Token

set_option autoImplicit false

namespace MiniPascal

inductive Production where
  | program (name : String)
  | block
  | declarations
  | group (names : List String) (typeName : TypeName)
  | compound
  | noOp
  | assign (target : String)
  | expr
  | term
  | factor
deriving DecidableEq

def Production.text : Production → String
  | .program name => "Program: \"" ++ name ++ "\""
  | .block => "Block"
  | .declarations => "Declarations"
  | .group names typeName =>
    "VarDecl: " ++ typeName.text ++ " [" ++ ", ".intercalate (names.map Text.quote) ++ "]"
  | .compound => "Compound"
  | .noOp => "NoOp"
  | .assign target => "Assign: \"" ++ target ++ "\""
  | .expr => "Expr"
  | .term => "Term"
  | .factor => "Factor"

inductive Event where
  | lexing (source : String)
  | token (token : Token)
  | production (depth : Nat) (production : Production)
  | parsed (program : String)
  | defined (symbol : Symbol)
  | checked (program : String) (table : SymbolTable)
  | resolved (symbols : Nat)
  | assigned (name : String) (value : Number)
  | evaluated (program : String)

namespace Event

def depthScale (depth : Nat) : String :=
  String.join ((List.range depth).map fun i => toString (i % 10))

def level : Event → Level
  | .lexing _ | .parsed _ | .checked _ _ | .resolved _ | .evaluated _ => .debug
  | .token _ | .production _ _ | .defined _ | .assigned _ _ => .trace

def target : Event → String
  | .lexing _ | .token _ => "lexer"
  | .production _ _ | .parsed _ => "parser"
  | .defined _ => "symbol"
  | .checked _ _ => "semantic"
  | .resolved _ => "script"
  | .assigned _ _ | .evaluated _ => "interpreter"

def message : Event → String
  | .lexing source => "Creating lexer:\n" ++ source
  | .token t => t.position.text ++ " " ++ t.text
  | .production depth p => depthScale depth ++ " " ++ p.text
  | .parsed program => "Parsed program \"" ++ program ++ "\""
  | .defined symbol => "Define: " ++ symbol.text
  | .checked program table => "Analyzed \"" ++ program ++ "\": " ++ table.text
  | .resolved symbols => "Resolved " ++ toString symbols ++ " symbols"
  | .assigned name value => name ++ " := " ++ value.text
  | .evaluated program => "Interpreted \"" ++ program ++ "\""

def record (e : Event) : Record :=
  ⟨e.level, e.target, e.message⟩

end Event

end MiniPascal
