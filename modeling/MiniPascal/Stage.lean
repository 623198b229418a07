import MiniPascal.Evaluate
import MiniPascal.Naming.Resolve
import MiniPascal.Syntax.Parser

set_option autoImplicit false

namespace MiniPascal

inductive Error where
  | parse (error : ParseError)
  | name (error : NameError)
  | eval (error : EvalError)
deriving DecidableEq

inductive ErrorKind where
  | invalidCharacter
  | unterminatedComment
  | invalidNumber
  | unexpectedToken
  | maxDepth
  | nameError
  | divisionByZero
  | overflow
deriving DecidableEq

def ErrorKind.name : ErrorKind → String
  | .invalidCharacter => "InvalidCharacter"
  | .unterminatedComment => "UnterminatedComment"
  | .invalidNumber => "InvalidNumber"
  | .unexpectedToken => "UnexpectedToken"
  | .maxDepth => "MaxDepth"
  | .nameError => "NameError"
  | .divisionByZero => "DivisionByZero"
  | .overflow => "Overflow"

def LexFault.kind : LexFault → ErrorKind
  | .invalidCharacter _ => .invalidCharacter
  | .unterminatedComment => .unterminatedComment
  | .invalidNumber _ => .invalidNumber

namespace Error

def message : Error → String
  | .parse error => error.message
  | .name error => error.message
  | .eval error => error.message

def kind : Error → ErrorKind
  | .parse (.lexical error) => error.fault.kind
  | .parse (.unexpected _ _ _) => .unexpectedToken
  | .parse (.tooDeep _) => .maxDepth
  | .name _ => .nameError
  | .eval (.unassigned _) => .nameError
  | .eval (.arithmetic .divisionByZero) => .divisionByZero
  | .eval (.arithmetic (.overflow _)) => .overflow

end Error

structure Logged (α : Type) where
  result : Except Error α
  log : List Event

namespace Logged

variable {α β : Type}

def report (event : Event) : Logged Unit :=
  ⟨.ok (), [event]⟩

def andThen (x : Logged α) (f : α → Logged β) : Logged β :=
  match x.result with
  | .ok a =>
    let y := f a
    ⟨y.result, x.log ++ y.log⟩
  | .error e => ⟨.error e, x.log⟩

instance : Monad Logged where
  pure a := ⟨.ok a, []⟩
  bind := andThen

theorem result_bind (x : Logged α) (f : α → Logged β) :
    (x >>= f).result = (do (f (← x.result)).result) := by
  change (x.andThen f).result = _
  unfold andThen
  cases x.result <;> rfl

end Logged

def Memory.log (memory : Memory) : List Event :=
  memory.trail.reverse.map fun (name, value) => .assigned name value

namespace Stage

def lexingLog (source : String) : List Event :=
  .lexing source :: (TokenStream.ofSource source).tokens.map .token

def parse (source : String) : Logged Program :=
  let stream := TokenStream.ofSource source
  match Parser.source stream ⟨stream, [.lexing source]⟩ with
  | .ok program s => ⟨.ok program, s.log.reverse⟩
  | .error e s => ⟨.error (.parse e), s.log.reverse⟩

def resolve (p : Program) : Logged SymbolTable :=
  let defined := (SymbolTable.builtins ++ p.symbols).map Event.defined
  match p.resolve with
  | .ok table => ⟨.ok table, defined ++ [.checked p.name table]⟩
  | .error e => ⟨.error (.name e), defined⟩

def evaluate (p : Program) : Logged Scope :=
  match p.execute with
  | .ok _ memory => ⟨.ok memory.scope, memory.log ++ [.evaluated p.name]⟩
  | .error e memory => ⟨.error (.eval e), memory.log⟩

def run (p : Program) : Logged Scope := do
  let table ← resolve p
  Logged.report (.resolved table.size)
  evaluate p

def interpret (source : String) : Logged Scope := do
  run (← parse source)

theorem result_resolve (p : Program) : (resolve p).result = p.resolve.mapError .name := by
  unfold resolve
  cases p.resolve <;> rfl

theorem result_evaluate (p : Program) : (evaluate p).result = p.evaluate.mapError .eval := by
  unfold evaluate Program.evaluate
  cases p.execute <;> rfl

theorem result_run (p : Program) :
    (run p).result = (do let _ ← (resolve p).result; (evaluate p).result) := by
  rw [run, Logged.result_bind]
  cases (resolve p).result <;> rfl

theorem result_interpret (source : String) :
    (interpret source).result = (do (run (← (parse source).result)).result) := by
  rw [interpret, Logged.result_bind]

end Stage

end MiniPascal
