import AxisMixer.Config.Basic
import AxisMixer.Json.Document

/-!
# Errors in the shape of a configuration

A `ShapeError` says what is wrong with the document and where: the place is the path of field
names that leads to it.
-/

namespace AxisMixer

namespace ShapeError

inductive Cause where
  | notAnObject
  | sectionNotAnObject (section_ : String)
  | unusableName (name : String)
  | neitherPathNorObject
  | matcher (fault : Matcher.Fault)
  | notAnInteger (found : Document)
  | notHexadecimal (found : String)
  | idOutOfRange (id : Int)
  | outputNotAnObject
  | noAxes
  | unknownAxis (name : String)
  | noDisplayName
  | ruleNotAnObject
  | missing (field : String)
  | notAString (found : Document)
  | emptyRange (range : Rule.EmptyRange)

def Cause.message : Cause → String
  | notAnObject => "Configuration must be a JSON object"
  | sectionNotAnObject name => "'" ++ name ++ "' must be an object mapping names to devices"
  | unusableName name =>
    "'" ++ name ++ "' cannot be used in expressions; device names " ++
      "may not contain whitespace, ':', parentheses or operators"
  | neitherPathNorObject => "expected a path or an object"
  | matcher fault => fault.message
  | notAnInteger found => "expected an integer, got " ++ found.shown
  | notHexadecimal found => "'" ++ found ++ "' is not a hexadecimal id"
  | idOutOfRange id => toString id ++ " is out of range"
  | outputNotAnObject => "expected an object"
  | noAxes => "'axes' must be a non-empty object"
  | unknownAxis name => "unknown axis name '" ++ name ++ "'"
  | noDisplayName => "expected a non-empty string"
  | ruleNotAnObject => "expected an object with min, max and expr"
  | missing field => "missing '" ++ field ++ "'"
  | notAString found => "expected a string, got " ++ found.shown
  | emptyRange range => range.message

end ShapeError

structure ShapeError where
  place : List String
  cause : ShapeError.Cause

/-- The place, its field names joined by points, and the cause. -/
def ShapeError.message (e : ShapeError) : String :=
  match e.place with
  | [] => e.cause.message
  | place => String.intercalate "." place ++ ": " ++ e.cause.message

end AxisMixer
