set_option autoImplicit false

namespace MiniPascal

inductive Level where
  | error
  | warn
  | info
  | debug
  | trace
deriving DecidableEq

namespace Level

def name : Level → String
  | .error => "ERROR"
  | .warn => "WARN"
  | .info => "INFO"
  | .debug => "DEBUG"
  | .trace => "TRACE"

def rank : Level → Nat
  | .error => 1
  | .warn => 2
  | .info => 3
  | .debug => 4
  | .trace => 5

end Level

structure Record where
  level : Level
  target : String
  message : String
deriving DecidableEq

def Record.line (time : String) (r : Record) : String :=
  time ++ " " ++ String.ofList (r.level.name.toList.rightpad 5 ' ') ++ " " ++ r.target ++ ": " ++
    r.message ++ "\n"

def Record.keep (level : Level) (records : List Record) : List Record :=
  records.filter (·.level.rank ≤ level.rank)

end MiniPascal
