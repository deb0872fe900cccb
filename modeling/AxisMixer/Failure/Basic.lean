import AxisMixer.Failure.Configuration

/-!
# Failures — everything that can end an operation

* `PropagationError`: a virtual axis cannot be recomputed.
* `Failure`: a configuration error, a propagation error, or an error that neither the
  configuration nor an expression is to blame for.
-/

namespace AxisMixer

inductive PropagationError where
  | missingBinding (key : AxisKey)
  /-- The message shows the expression.  A literal that was read from a text is never too long for
  that, and nothing is said here of an expression with other literals. -/
  | divisionByZero (expr : Expr)
  | readFailed (key : AxisKey) (reason : String)
  | writeFailed (key : AxisKey) (reason : String)
  deriving DecidableEq, Repr

namespace PropagationError

def ofEval : EvalError → PropagationError
  | .unbound key => .missingBinding key
  | .divisionByZero expr => .divisionByZero expr

/-- The reason behind a colon, or nothing if there is none. -/
def because (reason : String) : String := if reason.isEmpty then "" else ": " ++ reason

def message : PropagationError → String
  | missingBinding key => "No value is known for axis " ++ key.text
  | divisionByZero expr => "Division by zero in '" ++ expr.text ++ "'"
  | readFailed key reason => "Unable to read axis " ++ key.text ++ because reason
  | writeFailed key reason => "Unable to write axis " ++ key.text ++ because reason

end PropagationError

inductive Failure where
  | configuration (e : ConfigError)
  | propagation (e : PropagationError)
  | system (e : SystemError)
  /-- The operating system's interface for virtual devices refused to work. -/
  | uinput (reason : String)
  /-- A value outside what an operation takes. -/
  | invalidValue
  /-- A setting that is set to nothing. -/
  | emptySetting
  /-- Bytes that are no text. -/
  | undecodable
  | runtime (reason : String)
  /-- A virtual axis whose device has no place among the outputs. -/
  | noOutput (deviceId : Int)
  /-- The user asked the program to stop. -/
  | interrupted

namespace Failure

def message : Failure → String
  | configuration e => e.message
  | propagation e => e.message
  | system e => e.message
  | uinput reason => reason
  | invalidValue => "A value is outside what can be worked with"
  | emptySetting => "A setting has no value"
  | undecodable => "A file is not text in UTF-8"
  | runtime reason => reason
  | noOutput deviceId => "There is no output number " ++ toString deviceId
  | interrupted => "Interrupted"

/-- Whether the failure is an error, rather than the wish of the user. -/
def isError : Failure → Bool
  | interrupted => false
  | _ => true

end Failure

end AxisMixer
