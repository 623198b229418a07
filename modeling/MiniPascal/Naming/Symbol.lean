import MiniPascal.Naming.NameMap
import MiniPascal.Syntax

set_option autoImplicit false

namespace MiniPascal

structure Symbol where
  name : String
  -- The type of a variable; a type itself has none.
  typeName : Option String
deriving DecidableEq

namespace Symbol

def builtin (typeName : TypeName) : Symbol :=
  ⟨typeName.text, none⟩

def ofDeclaration (d : Declaration) : Symbol :=
  ⟨d.name, some d.typeName.text⟩

def text (s : Symbol) : String :=
  match s.typeName with
  | some typeName => "<" ++ s.name ++ ":" ++ typeName ++ ">"
  | none => s.name

end Symbol

structure SymbolTable where
  symbols : NameMap Symbol
  keyed : ∀ entry ∈ symbols.entries, entry.2.name = entry.1

namespace SymbolTable

def empty : SymbolTable :=
  ⟨.empty, fun _ mem => nomatch mem⟩

instance : Inhabited SymbolTable := ⟨empty⟩

theorem keyed_insert (table : SymbolTable) (s : Symbol) :
    ∀ entry ∈ (table.symbols.insert s.name s).entries, entry.2.name = entry.1 := by
  intro entry mem
  rcases NameMap.mem_insertEntry mem with added | old
  · rw [added]
  · exact table.keyed entry old

def define (table : SymbolTable) (s : Symbol) : SymbolTable :=
  ⟨table.symbols.insert s.name s, table.keyed_insert s⟩

def defineAll (table : SymbolTable) (symbols : List Symbol) : SymbolTable :=
  symbols.foldl define table

def builtins : List Symbol :=
  [.builtin .integer, .builtin .real]

def initial : SymbolTable :=
  defineAll empty builtins

def lookup (table : SymbolTable) (name : String) : Option Symbol :=
  table.symbols.lookup name

def sorted (table : SymbolTable) : List Symbol :=
  table.symbols.entries.map (·.2)

def names (table : SymbolTable) : List String :=
  table.symbols.names

def size (table : SymbolTable) : Nat :=
  table.symbols.size

def isEmpty (table : SymbolTable) : Bool :=
  table.symbols.isEmpty

def text (table : SymbolTable) : String :=
  "Symbols: " ++ ", ".intercalate (table.sorted.map Symbol.text)

end SymbolTable

end MiniPascal
