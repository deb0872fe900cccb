import AxisMixer.Program

/-!
# The command line

The outer layer of the program: it reads the environment and the files that can be asked for, hands
them to `Program.run`, and prints the log.  This build knows of no event devices.
-/

namespace AxisMixer.CommandLine

/-- The number of an error, which some calls report with its sign turned round. -/
def errorNumber (code : UInt32) : Int := code.toInt32.toInt.natAbs

/-- What the operating system says of a call that failed. -/
def systemError : IO.Error → SystemError
  | .alreadyExists _ code details | .interrupted _ code details
  | .noFileOrDirectory _ code details | .invalidArgument _ code details
  | .permissionDenied _ code details | .resourceExhausted _ code details
  | .inappropriateType _ code details | .noSuchThing _ code details
  | .otherError code details | .resourceBusy code details | .resourceVanished code details
  | .unsupportedOperation code details | .hardwareFault code details
  | .unsatisfiedConstraints code details | .illegalOperation code details
  | .protocolError code details | .timeExpired code details =>
    .ofNumber (errorNumber code) details
  | e => ⟨0, toString e, none⟩

def readEntry (path : Path) : IO Entry := do
  if path.text.contains '\x00' then return .unnameable
  try return .file (← IO.FS.readBinFile path.text)
  catch e => return .unusable (systemError e)

def readFiles (paths : List Path) : IO FileSystem := do
  let entries ← paths.mapM fun path => do return (path, ← readEntry path)
  return fun path => (OrderedMap.lookup path entries).getD (.unusable .noSuchFile)

def readEnvironment : IO Environment := do
  return {
    home := ← IO.getEnv "HOME"
    configHome := ← IO.getEnv "XDG_CONFIG_HOME"
    logLevel := ← IO.getEnv Logging.variableName }

/-- The configuration file that the command line names. -/
def namedFile (words : List String) : Option String :=
  match Arguments.parse words with
  | .ok ⟨.value path, _, _⟩ => some path
  | _ => none

/-- Prints what the run leaves behind and returns the exit status. -/
def conclude (report : Report) : IO UInt32 := do
  let out ← IO.getStdout
  let err ← IO.getStderr
  match report.stop with
  | some .version => out.putStr Arguments.versionText
  | some .help => out.putStr Arguments.usage
  | some .misuse => err.putStr Arguments.usage
  | none => pure ()
  for entry in report.shown do
    err.putStrLn (Logging.text entry.level.number entry.component.loggerName entry.message)
  match report.result with
  | .ok status => return status.toNat.toUInt32
  | .error e =>
    err.putStrLn e.message
    return 1

end AxisMixer.CommandLine

open AxisMixer in
def main (words : List String) : IO UInt32 := do
  let env ← CommandLine.readEnvironment
  let files ← CommandLine.readFiles
    (Config.candidates env Config.systemFile (CommandLine.namedFile words))
  CommandLine.conclude (Program.run .bare files env Config.systemFile words)
