import AxisMixer.Config.ShapeError
import AxisMixer.Expr.OfTokens

/-!
# From documents to configurations

A configuration is an object with two sections, `real_devices` and `virt_devices`, either of which
may be missing.  Fields that have no meaning are ignored.  The first thing that is wrong is
reported: physical devices before virtual ones, each section in its own order, and the axes of a
virtual device before its name and its ids.

A string of the document may hold halves of surrogate pairs.  It is a string like any other, and
stand-ins take the place of the halves where text is made of it.

* `Config.ofDocument`: the configuration that a document describes.
-/

namespace AxisMixer.Config

/-- Why a document describes no configuration. -/
inductive ReadError where
  | shape (e : ShapeError)
  /-- The text at `place` is no expression. -/
  | expression (place : List String) (e : SyntaxError)
  /-- A number with more digits than can be read or written. -/
  | numberTooLong

abbrev Fields := List (List Text.CodePoint × Document)

def fail {α : Type} (place : List String) (cause : ShapeError.Cause) : Except ReadError α :=
  .error (.shape ⟨place, cause⟩)

/-- The value of a field; of several with one name the first. -/
def Fields.get? (fields : Fields) (name : String) : Option Document :=
  OrderedMap.lookup (Text.codePoints name) fields

variable (standIns : Text.StandIns)

/-! ### Ids -/

/-- Ids are unsigned and have sixteen bits. -/
def checkId (place : List String) (id : Int) : Except ReadError Int :=
  if 0 ≤ id ∧ id ≤ 0xFFFF then .ok id
  else if Decimal.isWritable id.natAbs then fail place (.idOutOfRange id)
  else .error .numberTooLong

/-- An id is an integer or a hexadecimal numeral; null counts as not given. -/
def readId (place : List String) : Option Document → Except ReadError (Option Int)
  | none => .ok none
  | some .null => .ok none
  | some (.int id) => some <$> checkId place id
  | some (.text points) =>
    let numeral := standIns.text points
    match Text.hexNumeral? numeral with
    | some id => some <$> checkId place id
    | none => fail place (.notHexadecimal numeral)
  | some found => fail place (.notAnInteger found)

/-! ### Physical devices -/

/-- The text that stands for a path; a value other than a string is shown. -/
def pathText : Document → String
  | .text points => standIns.text points
  | found => found.shown

def givenPath? : Option Document → Option String
  | none => none
  | some .null => none
  | some found => some (pathText standIns found)

def readMatcher (name : String) (entry : Document) : Except ReadError Matcher := do
  unless isDeviceName name do fail ["real_devices"] (.unusableName name)
  let place := ["real_devices", name]
  match entry with
  | .text points => return .atPath (standIns.text points)
  | .object fields =>
    let vendor ← readId standIns (place ++ ["vendor_id"]) (Fields.get? fields "vendor_id")
    let product ← readId standIns (place ++ ["product_id"]) (Fields.get? fields "product_id")
    match Matcher.of? (givenPath? standIns (Fields.get? fields "path")) vendor product with
    | .ok matcher => return matcher
    | .error fault => fail place (.matcher fault)
  | _ => fail place .neitherPathNorObject

/-! ### Virtual devices -/

def required (place : List String) (fields : Fields) (name : String) :
    Except ReadError Document :=
  match Fields.get? fields name with
  | some found => .ok found
  | none => fail place (.missing name)

def readInteger (place : List String) : Document → Except ReadError Int
  | .int n => .ok n
  | found => fail place (.notAnInteger found)

def readExpr (place : List String) : Document → Except ReadError Expr
  | .text points =>
    match Expr.parse (standIns.text points) with
    | .ok expr => .ok expr
    | .error (.malformed e) => .error (.expression place e)
    | .error .numeralTooLong => .error .numberTooLong
  | found => fail place (.notAString found)

def readRule (place : List String) : Document → Except ReadError Rule
  | .object fields => do
    let least ← required place fields "min"
    let greatest ← required place fields "max"
    let source ← required place fields "expr"
    let min ← readInteger (place ++ ["min"]) least
    let max ← readInteger (place ++ ["max"]) greatest
    let expr ← readExpr standIns (place ++ ["expr"]) source
    match Rule.of? min max expr with
    | .ok rule => return rule
    | .error range => fail place (.emptyRange range)
  | _ => fail place .ruleNotAnObject

def readAxis (place : List String) (field : List Text.CodePoint × Document) :
    Except ReadError (Axis × Rule) :=
  let name := standIns.text field.1
  match Axis.ofName? name with
  | some axis => do return (axis, ← readRule standIns (place ++ [name]) field.2)
  | none => fail place (.unknownAxis name)

def readDisplayName (place : List String) : Option Document → Except ReadError String
  | none => .ok Output.defaultName
  | some (.text points) =>
    if points.isEmpty then fail place .noDisplayName else .ok (standIns.text points)
  | some _ => fail place .noDisplayName

def readOutput (name : String) (entry : Document) : Except ReadError Output := do
  let place := ["virt_devices", name]
  match entry with
  | .object fields =>
    match Fields.get? fields "axes" with
    | some (.object (axis :: more)) =>
      let axes ← (axis :: more).mapM (readAxis standIns (place ++ ["axes"]))
      let name ← readDisplayName standIns (place ++ ["name"]) (Fields.get? fields "name")
      let vendor ← readId standIns (place ++ ["vendor_id"]) (Fields.get? fields "vendor_id")
      let product ← readId standIns (place ++ ["product_id"]) (Fields.get? fields "product_id")
      return {
        axes := .ofList axes, name
        vendor := vendor.getD Output.defaultVendor
        product := product.getD Output.defaultProduct }
    | _ => fail place .noAxes
  | _ => fail place .outputNotAnObject

/-! ### The whole document -/

/-- The fields of a section; a section that is missing is empty. -/
def readSection (fields : Fields) (name : String) : Except ReadError Fields :=
  match Fields.get? fields name with
  | none => .ok []
  | some (.object entries) => .ok entries
  | some _ => fail [] (.sectionNotAnObject name)

/-- The entries of a section under their names, each as `read` reads it. -/
def readEntries {α : Type} (read : String → Document → Except ReadError α) (entries : Fields) :
    Except ReadError (List (String × α)) :=
  entries.mapM fun entry => do
    let name := standIns.text entry.1
    return (name, ← read name entry.2)

/-- The configuration that a document describes, with stand-ins for what is no text in it. -/
def readDocument : Document → Except ReadError Config
  | .object fields => do
    let physical ← readSection fields "real_devices"
    let virtual ← readSection fields "virt_devices"
    let matchers ← readEntries standIns (readMatcher standIns) physical
    let outputs ← readEntries standIns (readOutput standIns) virtual
    return { physical := .ofList matchers, virtual := .ofList outputs }
  | _ => fail [] .notAnObject

/-- The configuration that the document describes. -/
def ofDocument (d : Document) : Except ReadError Config := readDocument d.standIns d

end AxisMixer.Config
