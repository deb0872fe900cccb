import AxisMixer.Device.Journal

/-!
# Event devices — where the operating system reports what physical devices do

An open event device tells the current value of each of its axes and reports a stream of events.
The stream is finite: a list of incidents and, behind them, an end or a failure.

* `InputEvent`: one report.
* `Incident`: what can happen while the stream is read.
* `EventDevice`: an open event device.
-/

namespace AxisMixer

structure InputEvent where
  kind : Int
  code : Int
  value : Int
  deriving DecidableEq, Repr

namespace InputEvent

/-- Events that hold the stream together. -/
def synchronization : Int := 0

/-- Events that tell the position of an axis. -/
def position : Int := 3

/-- The end of a packet of events. -/
def report : Int := 0

/-- Events were lost; what is left of the packet is stale. -/
def dropped : Int := 3

def isReport (e : InputEvent) : Bool := e.kind == synchronization && e.code == report

def isDropped (e : InputEvent) : Bool := e.kind == synchronization && e.code == dropped

def isPosition (e : InputEvent) : Bool := e.kind == position

end InputEvent

inductive Incident where
  | event (e : InputEvent)
  /-- An axis takes another value and no event tells of it. -/
  | moved (code value : Int)
  /-- Asking for the value of an axis comes to fail in this way, or not at all. -/
  | faulted (code : Int) (fault : Option SystemError)
  /-- Whoever reads the stream closes the device. -/
  | closed
  deriving DecidableEq, Repr

structure EventDevice where
  path : String
  /-- What the device says of itself. -/
  label : String
  vendor : Int
  product : Int
  /-- The codes of the axes that the device has. -/
  codes : List Int
  /-- The current values of the axes. -/
  values : Int → Int
  /-- What asking for these values fails with. -/
  faults : Int → Option Failure
  /-- What is still to come. -/
  incidents : List Incident
  /-- What the stream fails with behind the incidents, if it does not just end. -/
  ending : Option Failure
  /-- What closing the device fails with. -/
  closeFault : Option Failure

namespace EventDevice

/-- The current value of an axis. -/
def valueOf (d : EventDevice) (code : Int) : Except Failure Int :=
  match d.faults code with
  | some e => .error e
  | none => .ok (d.values code)

def setValue (d : EventDevice) (code value : Int) : EventDevice :=
  { d with values := fun c => if c = code then value else d.values c }

def setFault (d : EventDevice) (code : Int) (fault : Option Failure) : EventDevice :=
  { d with faults := fun c => if c = code then fault else d.faults c }

/-- Closes the device, whether or not the operating system is content with it. -/
def close (d : EventDevice) (j : Journal) : Except Failure Unit × Journal :=
  (match d.closeFault with
    | some e => .error e
    | none => .ok (),
   j.did (.closed d.path))

end EventDevice

end AxisMixer
