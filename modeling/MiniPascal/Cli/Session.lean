import MiniPascal.Cli.Arguments
import MiniPascal.Cli.FileTree
import MiniPascal.Stage

set_option autoImplicit false

namespace MiniPascal.Cli

structure Report where
  code : Nat
  stdout : String
  stderr : String
  log : Option (List Record)
deriving DecidableEq

inductive Failure where
  | verbosity (count : Nat)
  | noLog (error : FileError)
  | unreadable (path : String) (error : FileError)
  | script (error : Error)
deriving DecidableEq

def Failure.message : Failure → String
  | .verbosity count =>
    "Verbosity must be between 0 and 5, not " ++ toString count ++ "!"
  | .noLog error => error.reason
  | .unreadable path error => "Unable to read " ++ path ++ "\n\nCaused by:\n    " ++ error.reason
  | .script error => error.message

inductive Notice where
  | logging (level : Level) (path : String)
  | arguments (arguments : Arguments)
  | event (event : Event)
  | programRead (name path : String)
  | complete

namespace Notice

def record : Notice → Record
  | .logging level path => ⟨.info, "logging", "Logging at " ++ level.name ++ " to " ++ path⟩
  | .arguments a => ⟨.info, "main", "Parsed arguments:\n" ++ a.outline⟩
  | .event e => e.record
  | .programRead name path => ⟨.info, "main", "Read program \"" ++ name ++ "\" from " ++ path⟩
  | .complete => ⟨.info, "main", "Program execution complete."⟩

end Notice

def scopeText (scope : Scope) : String :=
  String.join (scope.entries.map fun (name, value) => name ++ " = " ++ value.text ++ "\n")

def symbolsText (table : SymbolTable) : String :=
  String.join (table.sorted.map fun s => s.text ++ "\n")

namespace Command

def path : Command → String
  | .run path _ | .check path => path

def output (p : Program) : Command → Logged String
  | .run _ true => scopeText <$> Stage.evaluate p
  | .run _ false => scopeText <$> Stage.run p
  | .check _ => symbolsText <$> Stage.resolve p

def perform (source : Except FileError String) (command : Command) :
    Except Failure String × List Notice :=
  match source with
  | .error e => (.error (.unreadable command.path e), [])
  | .ok source =>
    let parsed := Stage.parse source
    match parsed.result with
    | .error e => (.error (.script e), parsed.log.map .event)
    | .ok p =>
      let printed := command.output p
      (printed.result.mapError .script,
        parsed.log.map .event ++ .programRead p.name command.path :: printed.log.map .event)

end Command

-- What a run needs of the machine it runs on.
structure Machine (m : Type → Type) where
  openLog : (directory path : String) → m (Except FileError Unit)
  log : (path : String) → List Record → m Unit
  read : (path : String) → m (Except FileError String)

namespace Session

def level : (verbosity : Nat) → Except Failure (Option Level)
  | 0 => .ok none
  | 1 => .ok (some .error)
  | 2 => .ok (some .warn)
  | 3 => .ok (some .info)
  | 4 => .ok (some .debug)
  | 5 => .ok (some .trace)
  | verbosity => .error (.verbosity verbosity)

def logDir (tempDir : String) : String :=
  if tempDir = "" ∨ tempDir.endsWith "/" then tempDir ++ "pasi" else tempDir ++ "/pasi"

def logPath (tempDir : String) : String :=
  logDir tempDir ++ "/pasi.log"

def records (level : Level) (notices : List Notice) : List Record :=
  Record.keep level (notices.map Notice.record)

def opening (tempDir : String) (level : Level) (a : Arguments) : List Record :=
  records level [.logging level (logPath tempDir), .arguments a]

def closing : Except Failure String → List Notice
  | .ok _ => [.complete]
  | .error _ => []

def report (result : Except Failure String) (log : Option (List Record)) : Report :=
  match result with
  | .ok stdout => ⟨0, stdout, "", log⟩
  | .error e => ⟨1, "", "Error: " ++ e.message ++ "\n", log⟩

def run {m : Type → Type} [Monad m] (machine : Machine m) (tempDir : String) (a : Arguments) :
    m Report := do
  match level a.verbosity with
  | .error e => return report (.error e) none
  | .ok none =>
    let source ← machine.read a.command.path
    return report (a.command.perform source).1 none
  | .ok (some level) =>
    match ← machine.openLog (logDir tempDir) (logPath tempDir) with
    | .error e => return report (.error (.noLog e)) none
    | .ok () =>
      let before := opening tempDir level a
      machine.log (logPath tempDir) before
      let source ← machine.read a.command.path
      let (result, notices) := a.command.perform source
      let after := records level (notices ++ closing result)
      machine.log (logPath tempDir) after
      return report result (some (before ++ after))

end Session

structure World (σ : Type) where
  machine : Machine (StateM σ)
  tempDir : String
  state : σ

def World.run {σ : Type} (w : World σ) (a : Arguments) : Report × σ :=
  Session.run w.machine w.tempDir a w.state

namespace FileSystem

-- What does not succeed leaves the files as they are.
def attempt (change : FileSystem → Except FileError FileSystem) :
    StateM FileSystem (Except FileError Unit) := fun files =>
  match change files with
  | .ok changed => (.ok (), changed)
  | .error e => (.error e, files)

def machine (time : String) : Machine (StateM FileSystem) where
  openLog _ path := attempt (·.write path .empty)
  log path records := do
    let lines := String.join (records.map (Record.line time))
    let _ ← attempt (·.append path lines.toUTF8)
  read path := return (← get).read path

end FileSystem

structure Environment where
  files : FileSystem
  tempDir : String
  time : String

inductive Outcome where
  | usage (usage : Usage)
  | report (report : Report)

namespace Environment

def world (env : Environment) : World FileSystem :=
  ⟨FileSystem.machine env.time, env.tempDir, env.files⟩

def run (env : Environment) (arguments : List String) : Outcome :=
  match Arguments.read arguments with
  | .error usage => .usage usage
  | .ok a => .report (env.world.run a).1

end Environment

end MiniPascal.Cli
