import AxisMixer.Config.ShapeError
import AxisMixer.Expr.SyntaxError
import AxisMixer.Failure.System

/-!
# Configuration errors — what keeps the program from starting

The configuration cannot be found or read, does not have the right shape, holds text that is no
expression, refers to axes that nobody reports, or names devices that cannot be opened or created.
-/

namespace AxisMixer

/-- A configuration file that cannot be used. -/
inductive FileError where
  /-- Written in a format that is no longer read. -/
  | outdatedFormat (path : String)
  | notJson (path : String)
  | unreadable (path : String) (e : SystemError)
  /-- Only a file in the outdated format was found, where `expected` was looked for. -/
  | onlyOutdated (found expected : String)
  | noneFound (user system : String)
  deriving DecidableEq, Repr

def FileError.message : FileError → String
  | outdatedFormat path =>
    "Config file '" ++ path ++ "' is YAML; only JSON configuration is supported"
  | notJson path => "Config file '" ++ path ++ "' is not valid JSON"
  | unreadable path e => "Unable to read config file '" ++ path ++ "': " ++ e.message
  | onlyOutdated found expected =>
    "Found YAML config '" ++ found ++ "' but only JSON is supported; convert it to '" ++
      expected ++ "'"
  | noneFound user system =>
    "Found no config file (looked for " ++ user ++ " and " ++ system ++ ")"

/-- An expression that refers to an axis no physical device reports. -/
inductive DependencyError where
  /-- The device is not a physical one; `isVirtual` if it is a virtual one. -/
  | undefinedDevice (consumer key : AxisKey) (isVirtual : Bool)
  | unsupportedAxis (consumer key : AxisKey)
  deriving DecidableEq, Repr

namespace DependencyError

/-- The axis referred to. -/
def key : DependencyError → AxisKey
  | undefinedDevice _ key _ => key
  | unsupportedAxis _ key => key

def message : DependencyError → String
  | undefinedDevice consumer key true =>
    "Virtual axis " ++ consumer.text ++ " references virtual device '" ++ key.device ++
      "'; expressions may only read physical devices"
  | undefinedDevice consumer key false =>
    "Expression of virtual axis " ++ consumer.text ++ " references device '" ++ key.device ++
      "' which is not defined"
  | unsupportedAxis consumer key =>
    "Device '" ++ key.device ++ "' does not support axis '" ++ key.axis.name ++
      "' (referenced by virtual axis " ++ consumer.text ++ ")"

end DependencyError

/-- A device that cannot be located, opened or created. -/
inductive OpenError where
  | notFound (matcher : Matcher)
  | cannotOpen (path name : String) (e : SystemError)
  | cannotCreate (name reason : String)
  deriving DecidableEq, Repr

def OpenError.message : OpenError → String
  | notFound matcher => "No device with IDs '" ++ matcher.text ++ "' was found"
  | cannotOpen path name e =>
    "Unable to open event device '" ++ path ++ "' for '" ++ name ++ "': " ++ e.message
  | cannotCreate name reason => "Unable to create virtual device '" ++ name ++ "': " ++ reason

inductive ConfigError where
  | shape (e : ShapeError)
  /-- The text at `place` is no expression; the place is empty for a text that stands alone. -/
  | expression (place : List String) (e : SyntaxError)
  | file (e : FileError)
  | dependency (e : DependencyError)
  | device (e : OpenError)
  /-- There is no output for these virtual devices. -/
  | missingOutputs (names : List String)

def ConfigError.message : ConfigError → String
  | shape e => e.message
  | expression [] e => e.message
  | expression place e => String.intercalate "." place ++ ": " ++ e.message
  | file e => e.message
  | dependency e => e.message
  | device e => e.message
  | missingOutputs names =>
    "No output device for virtual device(s): " ++ String.intercalate ", " names

end AxisMixer
