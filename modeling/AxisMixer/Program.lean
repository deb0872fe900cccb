import AxisMixer.Arguments
import AxisMixer.Config.File
import AxisMixer.Logging
import AxisMixer.Session

/-!
# The program — from a command line to an exit status

* `Program.run`: reads the command line and the configuration, and holds a session.
* `Program.conclude`: the exit status of a session that has come to its end.
-/

namespace AxisMixer

/-- What a run of the program leaves behind. -/
structure Report where
  /-- The exit status, or a failure that nobody has foreseen. -/
  result : Except Failure Int
  journal : Journal := {}
  logging : Logging
  /-- What the command line asks for instead of a session. -/
  stop : Option Arguments.Stop := none

namespace Report

/-- The entries of the log that are shown. -/
def shown (r : Report) : Log := r.logging.shown r.journal.log

end Report

namespace Program

def note (j : Journal) (level : Level) (message : String) : Journal := j.note .program level message

/-- Configuration errors, propagation errors and the wish of the user each have an exit status of
their own and leave a message in the log. -/
def conclude (result : Except Failure Unit) (j : Journal) : Except Failure Int × Journal :=
  match result with
  | .ok () => (.ok 0, j)
  | .error (.configuration e) => (.ok 1, note j .error e.message)
  | .error (.propagation e) => (.ok 2, note j .error ("Stopping: " ++ e.message))
  | .error .interrupted => (.ok 130, note j .info "Interrupted")
  | .error e => (.error e, j)

/-- The configuration file that is named, if one is. -/
def namedFile : Choice String → Except Failure (Option String)
  | .unset => .ok none
  | .empty => .error .emptySetting
  | .value path => .ok (some path)

/-- Finds and reads the configuration. -/
def configure (files : FileSystem) (env : Environment) (system : Path) (choice : Choice String)
    (j : Journal) : Except Failure Config × Journal :=
  match namedFile choice >>= Config.find files env system with
  | .error e => (.error e, j)
  | .ok path =>
    let (result, log) := Config.load files path
    (result, j.append log)

/-- Finds the configuration and holds a session under it. -/
def operate (host : Host) (files : FileSystem) (env : Environment) (system : Path)
    (settings : Settings) (j : Journal) : Except Failure Unit × Journal :=
  match configure files env system settings.config j with
  | (.error e, j) => (.error e, j)
  | (.ok config, j) => Session.run host config settings.failFast j

/-- Logging as the environment asks for it, before the command line is read. -/
def initialLogging (env : Environment) : Logging := Logging.ensureSetUp {} env.logLevel

/-- Logging as the command line asks for it. -/
def chosenLogging (env : Environment) : Choice Level → Except Failure Logging
  | .unset => .ok ((initialLogging env).setUp env.logLevel none false)
  | .empty => .error .emptySetting
  | .value level => .ok ((initialLogging env).setUp env.logLevel (some (.named level.name)) true)

/-- Runs the program with the words of its command line. -/
def run (host : Host) (files : FileSystem) (env : Environment) (system : Path)
    (words : List String) : Report :=
  match Arguments.parse words with
  | .error stop =>
    { result := .ok stop.status, logging := initialLogging env, stop := some stop }
  | .ok settings =>
    match chosenLogging env settings.logLevel with
    | .error e => { result := .error e, logging := initialLogging env }
    | .ok logging =>
      let (result, journal) := operate host files env system settings {}
      let (result, journal) := conclude result journal
      { result, journal, logging }

end Program

end AxisMixer
