import AxisMixer.Expr.Value
import AxisMixer.OrderedMap
import AxisMixer.Text.HexNumeral

/-!
# Configurations — which devices there are, and what drives the virtual ones

* `Matcher`: how a physical device is found.
* `Rule`: the range of a virtual axis and the expression that governs it.
* `Output`: a virtual device.
* `Config`: physical and virtual devices by name.
-/

namespace AxisMixer

/-- A physical device is found by the path of its event device or by its two USB ids. -/
inductive Matcher where
  | atPath (path : String)
  | withIds (vendor product : Int)
  deriving DecidableEq, Repr

namespace Matcher

/-- Why the given path and ids locate no device. -/
inductive Fault where
  | nothingGiven
  | pathAndIds
  | oneIdOnly
  deriving DecidableEq, Repr

def Fault.message : Fault → String
  | nothingGiven => "Device matcher needs a path or vendor_id/product_id"
  | pathAndIds => "Device matcher takes either a path or vendor_id/product_id, not both"
  | oneIdOnly => "Device matcher needs both vendor_id and product_id"

/-- The matcher for what is given: a path alone, or both ids alone. -/
def of? : (path : Option String) → (vendor product : Option Int) → Except Fault Matcher
  | none, none, none => .error .nothingGiven
  | some path, none, none => .ok (.atPath path)
  | some _, _, _ => .error .pathAndIds
  | none, some vendor, some product => .ok (.withIds vendor product)
  | none, _, _ => .error .oneIdOnly

/-- The path, or the two ids in hexadecimal. -/
def text : Matcher → String
  | atPath path => path
  | withIds vendor product => Text.hex4 vendor ++ ":" ++ Text.hex4 product

end Matcher

/-- The range of a virtual axis and the expression that governs it.  The range is told to whoever
reads the virtual device; computed values are not confined to it. -/
structure Rule where
  min : Int
  max : Int
  expr : Expr
  min_le_max : min ≤ max
  deriving DecidableEq

namespace Rule

/-- The range `min … max` is empty. -/
structure EmptyRange where
  min : Int
  max : Int
  deriving DecidableEq, Repr

def EmptyRange.message (e : EmptyRange) : String :=
  "Axis range min (" ++ toString e.min ++ ") must not exceed max (" ++ toString e.max ++ ")"

def of? (min max : Int) (expr : Expr) : Except EmptyRange Rule :=
  if h : min ≤ max then .ok ⟨min, max, expr, h⟩ else .error ⟨min, max⟩

/-- The middle of the range, rounded down. -/
def center (r : Rule) : Int := (r.min + r.max).fdiv 2

end Rule

/-- A virtual device: the rules of its axes, and what it says of itself. -/
structure Output where
  axes : OrderedMap Axis Rule
  name : String
  vendor : Int
  product : Int

namespace Output

/-- What a virtual device says of itself unless it is told otherwise. -/
def defaultName : String := "Pimp-My-Axis Device"

def defaultVendor : Int := 0x1209

def defaultProduct : Int := 0x0001

end Output

structure Config where
  physical : OrderedMap String Matcher
  virtual : OrderedMap String Output

end AxisMixer
