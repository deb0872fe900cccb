import AxisMixer.Failure.Basic
import AxisMixer.Log

/-!
# The dependency graph — which virtual axes to recompute when a physical axis changes

The graph has two levels.  Every physical axis that some expression mentions leads to the virtual
axes whose expressions mention it, in the order of the configuration.  A virtual axis holds the
place of its device among the virtual devices and nothing of the device itself, so that the graph
can be built before any virtual device exists.

Physical devices are known to the graph by handles of a type `S`; a `SourceView` says how a handle
is named and which axes it reports.

* `VirtAxis`, `RealAxis`: the two levels.
* `Graph.build`: the graph of a configuration, or the first dependency nobody can serve.
-/

namespace AxisMixer

/-! ### Virtual axes -/

/-- An axis of the virtual device at the place `deviceId`. -/
structure VirtAxis where
  deviceId : Int
  key : AxisKey
  rule : Rule
  deriving DecidableEq

namespace VirtAxis

def expr (v : VirtAxis) : Expr := v.rule.expr

def dependencies (v : VirtAxis) : List AxisKey := v.expr.dependencies

/-- Two entries compute the same axis if they agree in this. -/
def identity (v : VirtAxis) : Int × Axis × Expr := (v.deviceId, v.key.axis, v.expr)

end VirtAxis

/-! ### Physical axes -/

/-- What the graph needs to know of the physical devices behind the handles. -/
structure SourceView (S : Type) where
  name : S → String
  supports : S → Axis → Bool

/-- An axis of a physical device, and the virtual axes that depend on it. -/
structure RealAxis (S : Type) where
  source : S
  axis : Axis
  downstream : List VirtAxis := []

namespace RealAxis

variable {S : Type}

/-- The axis under the device's own name. -/
def key (view : SourceView S) (r : RealAxis S) : AxisKey := ⟨view.name r.source, r.axis⟩

/-- Whether an entry with the identity of `v` is downstream already. -/
def covers (r : RealAxis S) (v : VirtAxis) : Bool :=
  r.downstream.any fun w => w.identity == v.identity

/-- Appends `v` to the entries downstream, unless one with its identity is there. -/
def addDownstream (r : RealAxis S) (v : VirtAxis) : RealAxis S :=
  if r.covers v then r else { r with downstream := r.downstream ++ [v] }

end RealAxis

/-! ### The graph -/

structure Graph (S : Type) where
  sources : OrderedMap String S
  /-- The names of the virtual devices; a `VirtAxis` refers to its device by the place here. -/
  devices : List String
  virtAxes : List VirtAxis
  realAxes : OrderedMap AxisKey (RealAxis S)

namespace Graph

variable {S : Type}

/-- The number of physical axes that something depends on. -/
def size (g : Graph S) : Nat := g.realAxes.size

/-- The axes of one virtual device. -/
def axesOf (deviceId : Nat) (name : String) (output : Output) : List VirtAxis :=
  output.axes.entries.map fun e => ⟨deviceId, ⟨name, e.1⟩, e.2⟩

/-- The axes of all virtual devices, in the order of the configuration. -/
def axesOfAll (virtual : OrderedMap String Output) : List VirtAxis :=
  virtual.entries.zipIdx.flatMap fun e => axesOf e.2 e.1.1 e.1.2

/-- The dependencies to be connected, axis by axis and from left to right in each expression. -/
def links (axes : List VirtAxis) : List (VirtAxis × AxisKey) :=
  axes.flatMap fun v => v.dependencies.map fun k => (v, k)

/-- The physical device that serves the dependency `k` of `v`. -/
def provider (view : SourceView S) (sources : OrderedMap String S)
    (virtual : OrderedMap String Output) (v : VirtAxis) (k : AxisKey) :
    Except DependencyError S :=
  match sources.find? k.device with
  | none => .error (.undefinedDevice v.key k (virtual.contains k.device))
  | some s => if view.supports s k.axis then .ok s else .error (.unsupportedAxis v.key k)

/-- The physical axes connected so far. -/
abbrev Connections (S : Type) := OrderedMap AxisKey (RealAxis S)

/-- Puts `v` downstream of `k`, an axis of `s`, and says so if it was not there. -/
def connect (connections : Connections S) (s : S) (v : VirtAxis) (k : AxisKey) :
    Connections S × Log :=
  let r := (connections.find? k).getD { source := s, axis := k.axis }
  (connections.insert k (r.addDownstream v),
    if r.covers v then #[]
    else #[⟨.debug, .graph, k.text ++ " -> " ++ v.key.text⟩])

/-- Connects one dependency after another, up to the first that nobody can serve. -/
def connectAll (view : SourceView S) (sources : OrderedMap String S)
    (virtual : OrderedMap String Output) (connections : Connections S) (log : Log) :
    List (VirtAxis × AxisKey) → Except DependencyError (Connections S) × Log
  | [] => (.ok connections, log)
  | (v, k) :: rest =>
    match provider view sources virtual v k with
    | .error e => (.error e, log)
    | .ok s =>
      let (connections, entries) := connect connections s v k
      connectAll view sources virtual connections (log ++ entries) rest

/-- The graph of the virtual devices over the physical ones, and the log of building it. -/
def build (view : SourceView S) (sources : OrderedMap String S)
    (virtual : OrderedMap String Output) : Except DependencyError (Graph S) × Log :=
  let virtAxes := axesOfAll virtual
  let (connected, log) := connectAll view sources virtual .empty #[] (links virtAxes)
  (connected.map fun realAxes => { sources, devices := virtual.keys, virtAxes, realAxes }, log)

end Graph

end AxisMixer
