/-!
# Axes — the absolute axes of a joystick, and values reported for them

* `Axis`: the eleven axes that can be read and written, each with its case-sensitive name and the
  code under which input events carry it.
* `AxisKey`: one axis of one named device.
* `Update`: a new value of an axis.
-/

namespace AxisMixer

inductive Axis where
  | x | y | z | rx | ry | rz | throttle | rudder | wheel | gas | brake
  deriving DecidableEq, Repr

namespace Axis

/-- All axes, in canonical order. -/
def all : List Axis := [x, y, z, rx, ry, rz, throttle, rudder, wheel, gas, brake]

/-- The name that stands for the axis in expressions and configurations. -/
def name : Axis → String
  | x => "X" | y => "Y" | z => "Z"
  | rx => "RX" | ry => "RY" | rz => "RZ"
  | throttle => "Throttle" | rudder => "Rudder" | wheel => "Wheel" | gas => "Gas"
  | brake => "Brake"

/-- The code of the axis in an absolute-position event. -/
def code : Axis → Nat
  | x => 0 | y => 1 | z => 2
  | rx => 3 | ry => 4 | rz => 5
  | throttle => 6 | rudder => 7 | wheel => 8 | gas => 9
  | brake => 10

def ofName? (s : String) : Option Axis := all.find? fun a => a.name == s

/-- Codes outside the canonical axes belong to no axis. -/
def ofCode? (c : Int) : Option Axis := all.find? fun a => (a.code : Int) == c

theorem mem_all (a : Axis) : a ∈ all := by cases a <;> decide

theorem ofName?_name (a : Axis) : ofName? a.name = some a := by cases a <;> decide

theorem ofName?_eq_some_iff {s : String} {a : Axis} : ofName? s = some a ↔ a.name = s := by
  constructor
  · intro h
    simpa using List.find?_some h
  · rintro rfl
    exact ofName?_name a

theorem ofCode?_code (a : Axis) : ofCode? a.code = some a := by cases a <;> decide

end Axis

/-- One axis of the device called `device`. -/
structure AxisKey where
  device : String
  axis : Axis
  deriving DecidableEq, Repr

/-- `device:axis`. -/
def AxisKey.text (k : AxisKey) : String := k.device ++ ":" ++ k.axis.name

/-- The axis `key` has taken the value `value`. -/
structure Update where
  key : AxisKey
  value : Int
  deriving DecidableEq, Repr

end AxisMixer
