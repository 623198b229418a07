import Mathlib.Control.Monad.Basic
import MiniPascal.Cli.Session
import MiniPascal.Proofs.Token.Decomposition

set_option autoImplicit false

namespace MiniPascal

namespace Cli

namespace Report

def shown (r : Report) : Nat × String × String :=
  (r.code, r.stdout, r.stderr)

end Report

namespace Command

end Command

namespace Session

end Session

namespace World

variable {σ τ υ : Type}

def opened (w : World σ) : Except FileError Unit × σ :=
  w.machine.openLog (Session.logDir w.tempDir) (Session.logPath w.tempDir) w.state

-- The state once a log has been opened and holds the given records.
def withLog (w : World σ) (records : List Record) : σ :=
  (w.machine.log (Session.logPath w.tempDir) records w.opened.2).2

def atRead (w : World σ) (a : Arguments) : σ :=
  match Session.level a.verbosity with
  | .ok (some level) => w.withLog (Session.opening w.tempDir level a)
  | _ => w.state

def reads (w : World σ) (a : Arguments) : Except FileError String :=
  (w.machine.read a.command.path (w.atRead a)).1

variable {w : World σ} {a : Arguments}

end World

section OneProgram

end OneProgram

end Cli

end MiniPascal
