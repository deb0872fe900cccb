import AxisMixer.Failure.Basic
import AxisMixer.Log

/-!
# The journal — what is done to the devices of the machine

* `Deed`: something that was done to a device and cannot be undone.
* `Journal`: the log together with the deeds.
* `Outcome`: what comes of working with a device.
-/

namespace AxisMixer

/-- An axis of a virtual device as the operating system is told of it. -/
structure AxisSetup where
  code : Int
  value : Int
  min : Int
  max : Int
  deriving DecidableEq, Repr

/-- Event devices are known by their paths, virtual devices by what they say of themselves. -/
inductive Deed where
  | opened (path : String)
  | closed (path : String)
  | created (label : String) (vendor product : Int) (axes : List AxisSetup)
  /-- A virtual device that was there before was taken into use. -/
  | adopted (label : String)
  | wrote (label : String) (code value : Int)
  /-- What was written takes effect. -/
  | reported (label : String)
  | destroyed (label : String)
  deriving DecidableEq, Repr

structure Journal where
  log : Log := #[]
  /-- The deeds, the latest one last. -/
  deeds : Array Deed := #[]

namespace Journal

def note (j : Journal) (component : Component) (level : Level) (message : String) : Journal :=
  { j with log := j.log.push ⟨level, component, message⟩ }

/-- Takes in a log made elsewhere. -/
def append (j : Journal) (log : Log) : Journal := { j with log := j.log ++ log }

def did (j : Journal) (deed : Deed) : Journal := { j with deeds := j.deeds.push deed }

end Journal

/-- The result of working with a device of type `δ`, the device as it is afterwards, and the
journal. -/
structure Outcome (δ α : Type) where
  result : Except Failure α
  device : δ
  journal : Journal

end AxisMixer
