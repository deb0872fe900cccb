import AxisMixer.Engine.Basic

/-!
# The bench — devices held in memory

A bench holds the current values of physical devices and takes the writes on virtual ones.  Reads
and writes can be made to fail, and a write can be made to change values, as if the device written
to were connected to the devices read.  Devices are known by their names.

* `Bench.access`: reading and writing on a bench.
-/

namespace AxisMixer

/-- An axis of a virtual device took a value. -/
structure Write where
  key : AxisKey
  value : Int
  deriving DecidableEq, Repr

structure Bench where
  values : AxisKey → Option Int
  /-- What reading these axes fails with. -/
  readFaults : AxisKey → Option Failure := fun _ => none
  /-- What writing these axes fails with. -/
  writeFaults : AxisKey → Option Failure := fun _ => none
  /-- The values that each write on a virtual device sets. -/
  hooks : String → List (AxisKey × Int) := fun _ => []
  /-- The reads made, also those that failed, the latest one last. -/
  reads : Array AxisKey := #[]
  /-- The writes that succeeded, the latest one last. -/
  writes : Array Write := #[]

namespace Bench

/-- `f` with another value at `a`. -/
def update {α β : Type} [DecidableEq α] (f : α → β) (a : α) (b : β) : α → β := fun x =>
  if x = a then b else f x

def setValue (b : Bench) (key : AxisKey) (value : Option Int) : Bench :=
  { b with values := update b.values key value }

def setReadFault (b : Bench) (key : AxisKey) (fault : Option Failure) : Bench :=
  { b with readFaults := update b.readFaults key fault }

def setWriteFault (b : Bench) (key : AxisKey) (fault : Option Failure) : Bench :=
  { b with writeFaults := update b.writeFaults key fault }

def setHook (b : Bench) (output : String) (values : List (AxisKey × Int)) : Bench :=
  { b with hooks := update b.hooks output values }

/-- An axis is supported if it has a value. -/
def supports (b : Bench) (source : String) (axis : Axis) : Bool :=
  (b.values ⟨source, axis⟩).isSome

def view (b : Bench) : SourceView String := ⟨id, b.supports⟩

/-- A fault goes before a missing value. -/
def read (source : String) (axis : Axis) (b : Bench) : Except Failure Int × Bench :=
  let key : AxisKey := ⟨source, axis⟩
  let result :=
    match b.readFaults key, b.values key with
    | some fault, _ => .error fault
    | none, some value => .ok value
    | none, none => .error (.propagation (.readFailed key "axis not supported by device"))
  (result, { b with reads := b.reads.push key })

def write (output : String) (axis : Axis) (value : Int) (b : Bench) :
    Except Failure Unit × Bench :=
  let key : AxisKey := ⟨output, axis⟩
  match b.writeFaults key with
  | some fault => (.error fault, b)
  | none =>
    let written := { b with writes := b.writes.push ⟨key, value⟩ }
    (.ok (), (b.hooks output).foldl (fun b e => b.setValue e.1 (some e.2)) written)

def access : DeviceAccess String String Bench := ⟨read, write⟩

end Bench

end AxisMixer
