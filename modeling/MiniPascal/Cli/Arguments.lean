import MiniPascal.Text.Quoted

/-!
The arguments of the command line:

    [-v | --verbosity]... run [-u | --unchecked] FILE
    [-v | --verbosity]... check FILE
    [-v | --verbosity]... help [SUBCOMMAND]

`-h` and `--help` ask for help wherever they stand, `-V` and `--version` for the version before the
subcommand. Arguments are read from left to right, and the first request or unknown argument settles
the matter; what is missing or repeated shows at the end.
-/

set_option autoImplicit false

namespace MiniPascal.Cli

inductive Command where
  | run (path : String) (unchecked : Bool)
  | check (path : String)
deriving DecidableEq

structure Arguments where
  verbosity : Nat
  command : Command
deriving DecidableEq

inductive Usage where
  | help
  | version
  | error
deriving DecidableEq

inductive Argument where
  | plain (text : String)
  | short (flags : List Char)
  | long (name : String) (value : Option String)
  -- Two dashes: all that follows is plain.
  | escape

namespace Argument

def ofLong (text : List Char) : Argument :=
  let name := String.ofList (text.takeWhile (· != '='))
  match text.dropWhile (· != '=') with
  | [] => .long name none
  | _ :: value => .long name (some (String.ofList value))

-- A dash alone is plain.
def ofString (text : String) : Argument :=
  match text.toList with
  | ['-', '-'] => .escape
  | '-' :: '-' :: rest => ofLong rest
  | ['-'] => .plain text
  | '-' :: flags => .short flags
  | _ => .plain text

end Argument

structure Subcommand where
  file : Option String
  unchecked : Nat

namespace Subcommand

def blank : Subcommand :=
  ⟨none, 0⟩

def addFile (s : Subcommand) (path : String) : Except Usage Subcommand :=
  match s.file with
  | none => .ok { s with file := some path }
  | some _ => .error .error

abbrev Flags (key : Type) := key → Subcommand → Except Usage Subcommand

def askHelp (_ : Subcommand) : Except Usage Subcommand :=
  .error .help

def unknown (_ : Subcommand) : Except Usage Subcommand :=
  .error .error

def setUnchecked (s : Subcommand) : Except Usage Subcommand :=
  .ok { s with unchecked := s.unchecked + 1 }

def shortFlags (mayBeUnchecked : Bool) : Flags Char
  | 'h' => askHelp
  | 'u' => if mayBeUnchecked then setUnchecked else unknown
  | _ => unknown

def longFlags (mayBeUnchecked : Bool) : Flags String
  | "help" => askHelp
  | "unchecked" => if mayBeUnchecked then setUnchecked else unknown
  | _ => unknown

def read (mayBeUnchecked : Bool) : Subcommand → List String → Except Usage Subcommand
  | s, [] => .ok s
  | s, argument :: rest => do
    match Argument.ofString argument with
    | .plain path => read mayBeUnchecked (← s.addFile path) rest
    | .short flags =>
      read mayBeUnchecked (← flags.foldlM (fun s flag => shortFlags mayBeUnchecked flag s) s) rest
    | .long name none => read mayBeUnchecked (← longFlags mayBeUnchecked name s) rest
    | .long _ (some _) => .error .error
    | .escape => rest.foldlM addFile s

def finish (s : Subcommand) : Except Usage (String × Bool) :=
  match s.file with
  | some path => if s.unchecked ≤ 1 then .ok (path, s.unchecked == 1) else .error .error
  | none => .error .error

end Subcommand

namespace Command

def names : List String :=
  ["run", "check", "help"]

-- Help can be asked for on one subcommand at most.
def readHelp : List String → Usage
  | [] => .help
  | [name] => if name ∈ names then .help else .error
  | _ => .error

def read (name : String) (arguments : List String) : Except Usage Command := do
  match name with
  | "run" =>
    let (path, unchecked) ← (← Subcommand.read true .blank arguments).finish
    return .run path unchecked
  | "check" =>
    let (path, _) ← (← Subcommand.read false .blank arguments).finish
    return .check path
  | "help" => .error (readHelp arguments)
  | _ => .error .error

def outline : Command → String
  | .run path unchecked =>
    "Run \x7b\n        path: " ++ Text.quote path ++ ",\n        unchecked: " ++ toString unchecked ++
      ",\n    \x7d"
  | .check path => "Check \x7b\n        path: " ++ Text.quote path ++ ",\n    \x7d"

end Command

namespace Arguments

def countVerbosity (count : Nat) : Char → Except Usage Nat
  | 'v' => .ok (count + 1)
  | 'h' => .error .help
  | 'V' => .error .version
  | _ => .error .error

def readFrom (verbosity : Nat) : List String → Except Usage Arguments
  | [] => .error .error
  | argument :: rest => do
    match Argument.ofString argument with
    | .plain name => return ⟨verbosity, ← Command.read name rest⟩
    | .short flags => readFrom (← flags.foldlM countVerbosity verbosity) rest
    | .long "verbosity" none => readFrom (verbosity + 1) rest
    | .long "help" none => .error .help
    | .long "version" none => .error .version
    | .long _ _ => .error .error
    | .escape => .error .error

def read (arguments : List String) : Except Usage Arguments :=
  readFrom 0 arguments

def outline (a : Arguments) : String :=
  "Args \x7b\n    verbosity: " ++ toString a.verbosity ++ ",\n    command: " ++ a.command.outline ++
    ",\n\x7d"

end Arguments

end MiniPascal.Cli
