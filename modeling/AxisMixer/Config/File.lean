import AxisMixer.Config.OfDocument
import AxisMixer.Failure.Basic
import AxisMixer.Files.Basic
import AxisMixer.Json.Reader
import AxisMixer.Log

/-!
# Configuration files — where they are looked for, and how they are read

A configuration file that is named is used; otherwise the user's own file is used if there is one,
and then that of the system.  A file in the outdated format in one of these places is reported, so
that it is not ignored in silence.

* `Config.find`: the file to use.
* `Config.load`: the configuration that a file holds.
-/

namespace AxisMixer

/-- What the environment tells the program. -/
structure Environment where
  /-- The user's home directory, if it is known. -/
  home : Option String := none
  /-- The directory for configurations, if the user has set one. -/
  configHome : Option String := none
  /-- The name of the log level, if the user has set one. -/
  logLevel : Option String := none

namespace Config

def appName : String := "pimp-my-axis"

def fileName : String := "config.json"

/-- The name of a configuration file in the format that is no longer read. -/
def outdatedFileName : String := "config.yml"

/-- The configuration file of the system. -/
def systemFile : Path := ⟨.slash, ["etc", appName, fileName]⟩

/-! ### Finding the file -/

/-- The home directory.  Slashes at its end do not count, and one that starts with a tilde is no
directory. -/
def homeDirectory (env : Environment) : Except Failure Path :=
  let unknown := .error (.runtime "Could not determine home directory.")
  match env.home with
  | none => unknown
  | some home =>
    match (home.toList.reverse.dropWhile (· == '/')).reverse with
    | [] => .ok (.ofText "/")
    | '~' :: _ => unknown
    | chars => .ok (.ofText (String.ofList chars))

/-- The directory for configurations: the one that is set, unless it is set to nothing, and else
the usual one in the home directory. -/
def configDirectory (env : Environment) : Except Failure Path :=
  match env.configHome with
  | none | some "" => do return (← homeDirectory env).child ".config"
  | some directory => .ok (.ofText directory)

def userFile (env : Environment) : Except Failure Path := do
  return ((← configDirectory env).child appName).child fileName

def find (files : FileSystem) (env : Environment) (system : Path) (named : Option String) :
    Except Failure Path := do
  if let some named := named then return .ofText named
  let user ← userFile env
  let candidates := [user, system]
  if let some found ← (files.firstFile? candidates).mapError .system then return found
  let outdated := candidates.map fun p => p.withName outdatedFileName
  match ← (files.firstFile? outdated).mapError .system with
  | some found =>
    let error : FileError := .onlyOutdated found.text (found.withName fileName).text
    throw (.configuration (.file error))
  | none => throw (.configuration (.file (.noneFound user.text system.text)))

/-- All files that finding and reading a configuration can ask for. -/
def candidates (env : Environment) (system : Path) (named : Option String) : List Path :=
  match named with
  | some named => [.ofText named]
  | none =>
    let files := match userFile env with
      | .ok user => [user, system]
      | .error _ => [system]
    files ++ files.map fun p => p.withName outdatedFileName

/-! ### Reading the file -/

def ReadError.toFailure : ReadError → Failure
  | .shape e => .configuration (.shape e)
  | .expression place e => .configuration (.expression place e)
  | .numberTooLong => .invalidValue

/-- The configuration in the contents of the file `path`. -/
def ofContents (path : String) (contents : ByteArray) : Except Failure Config := do
  let some text := String.fromUTF8? contents | throw .undecodable
  match Document.parse text with
  | .error .malformed => throw (.configuration (.file (.notJson path)))
  | .error .numeralTooLong => throw .invalidValue
  | .ok document => (ofDocument document).mapError ReadError.toFailure

/-- The configuration in what a path leads to. -/
def ofEntry (path : String) : Entry → Except Failure Config
  | .file contents => ofContents path contents
  | .unusable e =>
    .error (.configuration (.file (.unreadable path { e with file := some path })))
  | .unnameable => .error .invalidValue

/-- Whether the name of the file is that of a file in the outdated format. -/
def isOutdated (path : Path) : Bool := path.suffix == ".yml" || path.suffix == ".yaml"

/-- The configuration in a file, and the log of reading it. -/
def load (files : FileSystem) (path : Path) : Except Failure Config × Log :=
  if isOutdated path then
    (.error (.configuration (.file (.outdatedFormat path.text))), #[])
  else
    (ofEntry path.text (files path),
      #[⟨.info, .configuration, "Reading config file '" ++ path.text ++ "'"⟩])

end Config

end AxisMixer
