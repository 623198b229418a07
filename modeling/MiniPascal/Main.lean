import MiniPascal.Cli.Session
import Std.Time

set_option autoImplicit false

namespace MiniPascal.Cli

-- Some calls give the code of the system with its sign changed.
def hasCode (code expected : UInt32) : Bool :=
  code == expected || code == -expected

def FileError.ofFailure (e : IO.Error) : FileError :=
  match e with
  | .noFileOrDirectory _ _ _ => .notFound
  | .alreadyExists _ _ _ => .alreadyExists
  | .inappropriateType _ code _ => if hasCode code 20 then .notDirectory else .isDirectory
  | .invalidArgument _ code _ => if hasCode code 36 then .nameTooLong else .other (toString e)
  | _ => .other (toString e)

def readText (path : String) : IO (Except FileError String) := do
  try
    match String.fromUTF8? (← IO.FS.readBinFile path) with
    | some text => return .ok text
    | none => return .error .notText
  catch e => return .error (.ofFailure e)

def makeDirectory (path : String) : IO Unit := do
  try IO.FS.createDir path
  catch
    | .noFileOrDirectory _ _ _ | .alreadyExists _ _ _ => IO.FS.createDirAll path
    | e => throw e

def makeLog (directory path : String) : IO (Except FileError Unit) := do
  try
    makeDirectory directory
    IO.FS.writeFile path ""
    return .ok ()
  catch e => return .error (.ofFailure e)

def appendLog (path : String) (records : List Record) : IO Unit := do
  try
    let time := (← Std.Time.PlainTime.now).format "HH:mm:ss.SSSSSS"
    IO.FS.withFile path .append fun file =>
      file.putStr (String.join (records.map (Record.line time)))
  catch _ => return

def machine : Machine IO := ⟨makeLog, appendLog, readText⟩

def perform (a : Arguments) : IO UInt32 := do
  let tempDir := (← IO.getEnv "TMPDIR").getD "/tmp"
  let report ← Session.run machine tempDir a
  IO.print report.stdout
  IO.eprint report.stderr
  return UInt32.ofNat report.code

def usageText : String :=
  "pasi [-v | --verbosity]... run [-u | --unchecked] FILE\n" ++
  "pasi [-v | --verbosity]... check FILE\n" ++
  "pasi help [SUBCOMMAND]\n"

def versionText : String :=
  "pasi 0.1.0\n"

end MiniPascal.Cli

open MiniPascal.Cli in
def main (arguments : List String) : IO UInt32 := do
  match Arguments.read arguments with
  | .ok a => perform a
  | .error .help =>
    IO.print usageText
    return 0
  | .error .version =>
    IO.print versionText
    return 0
  | .error .error =>
    IO.eprint usageText
    return 2
