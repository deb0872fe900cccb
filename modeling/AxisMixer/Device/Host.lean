import AxisMixer.Device.Event

/-!
# The host — what the operating system answers

What the host answers may depend on what was done before.
-/

namespace AxisMixer

structure Host where
  /-- The paths at which event devices are listed. -/
  listed : List String
  /-- What opening the event device at a path gives. -/
  opening : Array Deed → String → Except Failure EventDevice
  /-- What creating the virtual device that calls itself so fails with. -/
  creating : Array Deed → String → Option Failure
  /-- What writing this axis of a virtual device fails with. -/
  writing : Array Deed → String → Int → Option Failure

namespace Host

/-- A host without devices on which everything that is allowed works. -/
def bare : Host where
  listed := []
  opening _ _ := .error (.system .noSuchFile)
  creating _ _ := none
  writing _ _ _ := none

/-- Opens the event device at the path. -/
def openDevice (h : Host) (path : String) (j : Journal) : Except Failure EventDevice × Journal :=
  match h.opening j.deeds path with
  | .ok device => (.ok { device with path }, j.did (.opened path))
  | .error e => (.error e, j)

end Host

end AxisMixer
