import AxisMixer.Engine.Basic

/-!
# Engine — a rig of devices, and what serving an update on it should come to

A `Rig` is a set of devices whose readings are a function of a state, which accepted writes may
change.  Its `access` records what is done to the devices, act by act.

`serve` says what serving an update should come to, in terms of names and values alone: no arena,
no step monad, no order of binding.  It goes through a list of virtual axes.  For each of them

* the axes to be read are the dependencies but the axis of the update (`awaited`), and they are
  read in this order up to the first that fails (`upToFault`);
* the expression is evaluated with the value of the update and the values read (`seen`);
* the result is written to the output of the virtual device, by its name.

An axis for which any of this fails is skipped.
-/

namespace AxisMixer

/-- Reading gives a value or fails, and changes nothing.  A write that is accepted may change the
state, one that is refused does not.  Both fail only with errors that concern the one axis. -/
structure Rig (S K σ : Type) where
  read : S → Axis → σ → Except PropagationError Int
  write : K → Axis → Int → σ → Except PropagationError σ

namespace Rig

/-- What can be done to a device. -/
inductive Act (S K : Type) where
  /-- The axis was read, or was tried to be read. -/
  | read (source : S) (axis : Axis)
  | wrote (output : K) (axis : Axis) (value : Int)
  /-- The write failed. -/
  | refused (output : K) (axis : Axis) (value : Int)
  deriving DecidableEq

/-- The state of the devices, and what has been done to them, the latest act last. -/
structure World (S K σ : Type) where
  state : σ
  acts : List (Act S K)

variable {S K σ : Type}

/-- The devices, with a record of what is done to them. -/
def access (rig : Rig S K σ) : DeviceAccess S K (World S K σ) where
  read source axis w :=
    ((rig.read source axis w.state).mapError .propagation,
      { w with acts := w.acts ++ [.read source axis] })
  write output axis value w :=
    match rig.write output axis value w.state with
    | .ok state => (.ok (), ⟨state, w.acts ++ [.wrote output axis value]⟩)
    | .error e =>
      (.error (.propagation e), { w with acts := w.acts ++ [.refused output axis value] })

variable (rig : Rig S K σ) (sources : OrderedMap String S) (outputs : OrderedMap String K)
  (update : Update)

/-! ### Devices by name -/

/-- What reading the axis called `key` gives. -/
def look (key : AxisKey) (st : σ) : Except PropagationError Int :=
  match sources.find? key.device with
  | some source => rig.read source key.axis st
  | none => .error (.readFailed key "device is not defined")

/-- What writing the axis called `key` makes of the state. -/
def put (key : AxisKey) (value : Int) (st : σ) : Except PropagationError σ :=
  match outputs.find? key.device with
  | some output => rig.write output key.axis value st
  | none => .error (.writeFailed key "device is not defined")

/-- An act on the device called `name`, if there is one. -/
def actOn {D : Type} (devices : OrderedMap String D) (name : String) (act : D → Act S K) :
    List (Act S K) :=
  ((devices.find? name).map act).toList

/-! ### Reading -/

/-- Why the axis cannot be read. -/
def fault? (st : σ) (key : AxisKey) : Option PropagationError :=
  match rig.look sources key st with
  | .ok _ => none
  | .error e => some e

/-- Up to the first that cannot be read, and that one. -/
def upToFault (st : σ) (keys : List AxisKey) : List AxisKey :=
  keys.takeWhile (fun k => (rig.fault? sources st k).isNone) ++
    (keys.dropWhile fun k => (rig.fault? sources st k).isNone).take 1

/-- The acts of reading the axes in their order, up to the first that cannot be read. -/
def reads (st : σ) (keys : List AxisKey) : List (Act S K) :=
  (rig.upToFault sources st keys).flatMap fun k => actOn sources k.device (.read · k.axis)

/-! ### One virtual axis -/

/-- The axes but that of the update. -/
def others (keys : List AxisKey) : List AxisKey := keys.filter fun k => k ≠ update.key

/-- The dependencies to be read. -/
def awaited (v : VirtAxis) : List AxisKey := others update v.dependencies

/-- The axis of the update has the value of the update; every other dependency has the value it is
read with. -/
def seen (st : σ) (v : VirtAxis) : Bindings := fun k =>
  if k = update.key then some update.value
  else if k ∈ v.dependencies then (rig.look sources k st).toOption
  else none

/-- The value of the virtual axis, or why it has none: the first dependency that cannot be read,
or else what goes wrong in its expression. -/
def result (st : σ) (v : VirtAxis) : Except PropagationError Int :=
  match (awaited update v).findSome? (rig.fault? sources st) with
  | some e => .error e
  | none => (v.expr.evaluate (rig.seen sources update st v)).mapError .ofEval

/-- The acts that a virtual axis takes, and the state it leaves or why it is skipped. -/
def serveAxis (st : σ) (v : VirtAxis) : List (Act S K) × Except PropagationError σ :=
  let acts := rig.reads sources st (awaited update v)
  match rig.result sources update st v with
  | .error e => (acts, .error e)
  | .ok n =>
    match rig.put outputs v.key n st with
    | .ok st' => (acts ++ actOn outputs v.key.device (.wrote · v.key.axis n), .ok st')
    | .error e => (acts ++ actOn outputs v.key.device (.refused · v.key.axis n), .error e)

/-! ### All virtual axes -/

/-- What serving an update comes to. -/
structure Service (S K σ : Type) where
  acts : List (Act S K)
  state : σ
  /-- The number of virtual axes written. -/
  written : Nat
  /-- The virtual axes that were not written, with the reasons. -/
  skipped : List (VirtAxis × PropagationError)

/-- The virtual axes one after another, each in the state that the earlier ones leave. -/
def serve : List VirtAxis → σ → Service S K σ
  | [], st => ⟨[], st, 0, []⟩
  | v :: rest, st =>
    match rig.serveAxis sources outputs update st v with
    | (acts, .ok st') =>
      let later := serve rest st'
      { later with acts := acts ++ later.acts, written := later.written + 1 }
    | (acts, .error e) =>
      let later := serve rest st
      { later with acts := acts ++ later.acts, skipped := (v, e) :: later.skipped }

/-- The statistics after an update whose axis leads to `vs`. -/
def tally (vs : List VirtAxis) (service : Service S K σ) (stats : Stats) : Stats where
  received := stats.received + 1
  ignored := stats.ignored + if vs = [] then 1 else 0
  written := stats.written + service.written
  failed := stats.failed + service.skipped.length

end Rig

end AxisMixer
