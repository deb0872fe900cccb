import AxisMixer.Device.Host

/-!
# Virtual devices — where computed values are written

A virtual device has the axes of one output of the configuration.  Whoever uses the machine sees it
under what it says of itself, its label.

* `VirtualDevice.create`: makes a virtual device appear.
* `VirtualDevice.write`: gives one of its axes a value.
-/

namespace AxisMixer

structure VirtualDevice where
  /-- The name that the configuration gives it. -/
  name : String
  axes : List Axis
  label : String

namespace VirtualDevice

def component : Component := .virtualDevice

/-- An axis as the operating system is told of it; it starts in the middle of its range. -/
def setup (axis : Axis) (rule : Rule) : AxisSetup := ⟨axis.code, rule.center, rule.min, rule.max⟩

/-- The virtual device of an output, once it is there. -/
def ofOutput (name : String) (output : Output) (label : String) (j : Journal) :
    VirtualDevice × Journal :=
  ({ name, axes := output.axes.keys, label },
    j.note component .info
      ("Created uinput virtual device '" ++ output.name ++ "' for '" ++ name ++ "'"))

/-- What it means for the program that the host refuses to create a device. -/
def createFailure (label : String) : Failure → Failure
  | .system e => .configuration (.device (.cannotCreate label e.message))
  | .uinput reason => .configuration (.device (.cannotCreate label reason))
  | e => e

/-- Creates the virtual device of an output. -/
def create (host : Host) (name : String) (output : Output) (j : Journal) :
    Except Failure VirtualDevice × Journal :=
  match host.creating j.deeds output.name with
  | some e => (.error (createFailure output.name e), j)
  | none =>
    let setups := output.axes.entries.map fun e => setup e.1 e.2
    let (d, j) := ofOutput name output output.name
      (j.did (.created output.name output.vendor output.product setups))
    (.ok d, j)

/-- Takes a virtual device that is there already into use for an output. -/
def adopt (name : String) (output : Output) (label : String) (j : Journal) :
    VirtualDevice × Journal :=
  ofOutput name output label (j.did (.adopted label))

/-- Gives an axis a value, which takes effect at once. -/
def write (host : Host) (d : VirtualDevice) (axis : Axis) (value : Int) (j : Journal) :
    Except Failure Unit × Journal :=
  let failed (reason : String) : Failure := .propagation (.writeFailed ⟨d.name, axis⟩ reason)
  if d.axes.contains axis then
    match host.writing j.deeds d.label axis.code with
    | some (.system e) => (.error (failed e.message), j)
    | some e => (.error e, j)
    | none => (.ok (), (j.did (.wrote d.label axis.code value)).did (.reported d.label))
  else (.error (failed "axis not configured on device"), j)

/-- Makes the virtual device disappear. -/
def destroy (d : VirtualDevice) (j : Journal) : Journal := j.did (.destroyed d.label)

end VirtualDevice

end AxisMixer
