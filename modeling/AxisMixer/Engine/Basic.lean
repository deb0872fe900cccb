import AxisMixer.Graph

/-!
# The engine — from updates of physical axes to writes on virtual ones

For an update the engine looks up the physical axis in its graph and recomputes the virtual axes
downstream one after another, each to completion before the next one starts: it binds the axis
of the update to the new value, reads every other dependency, evaluates the expression and writes
the result.  An update of an axis that nothing depends on is ignored.  If a virtual axis cannot be
recomputed, it is skipped and the others are still served, unless the engine is told to fail fast.

An update is served with the graph and the outputs that the engine has when it starts on it.

* `DeviceAccess`: how devices are read and written.
* `Engine.Step`: what a running engine does, move by move.
* `Engine.handle`: serving one update.
* `Engine.swap`: another graph for the updates to come.
-/

namespace AxisMixer

/-- Reading physical devices, known by handles of type `S`, and writing virtual ones, known by
handles of type `K`, in a world whose state is `σ`. -/
structure DeviceAccess (S K σ : Type) where
  read : S → Axis → σ → Except Failure Int × σ
  write : K → Axis → Int → σ → Except Failure Unit × σ

/-- How many updates were received and how many of them ignored; how often a virtual axis was
written and how often that failed. -/
structure Stats where
  received : Nat := 0
  ignored : Nat := 0
  written : Nat := 0
  failed : Nat := 0
  deriving DecidableEq, Repr

structure Engine (S K : Type) where
  graph : Graph S
  /-- The outputs, at the places of their devices in the graph. -/
  arena : List K
  failFast : Bool
  stats : Stats

namespace Engine

variable {S K σ α β : Type}

/-! ### Outputs for a graph -/

/-- The virtual devices of the graph that have no output. -/
def missingOutputs (graph : Graph S) (outputs : OrderedMap String K) : List String :=
  graph.devices.filter fun name => !outputs.contains name

/-- One output for each virtual device of the graph, or the names of those that have none. -/
def arenaOf (graph : Graph S) (outputs : OrderedMap String K) :
    Except (List String) (List K) :=
  match missingOutputs graph outputs with
  | [] => .ok (graph.devices.filterMap outputs.find?)
  | missing => .error missing

/-- An engine that has served no update. -/
def create (graph : Graph S) (outputs : OrderedMap String K) (failFast : Bool) :
    Except (List String) (Engine S K) :=
  (arenaOf graph outputs).map fun arena => { graph, arena, failFast, stats := {} }

/-- The engine with another graph and its outputs; the statistics go on. -/
def swap? (e : Engine S K) (graph : Graph S) (outputs : OrderedMap String K) :
    Except (List String) (Engine S K) :=
  (arenaOf graph outputs).map fun arena => { e with graph, arena }

/-- What the log says after a swap. -/
def swapEntry (graph : Graph S) : LogEntry :=
  ⟨.info, .engine, "Dependency graph replaced (" ++ toString graph.size ++ " physical axes)"⟩

/-! ### A running engine -/

/-- An engine, the world it acts on, and what it has logged. -/
structure Run (S K σ : Type) where
  engine : Engine S K
  world : σ
  log : Log

/-- A step of a running engine: it has come to a result, or it makes its next move and goes on with
what the move gives.  A move is made as a whole, but between two of them something else may happen
to the engine.  What a step has done before it fails stays done. -/
inductive Step (S K σ α : Type) : Type 1 where
  | protected done (result : Except Failure α)
  | protected next {β : Type} (move : Run S K σ → β × Run S K σ) (rest : β → Step S K σ α)

namespace Step

protected def bind : Step S K σ α → (α → Step S K σ β) → Step S K σ β
  | .done (.ok a), f => f a
  | .done (.error e), _ => .done (.error e)
  | .next move rest, f => .next move fun b => (rest b).bind f

/-- Goes on with the handler if the step fails. -/
protected def orElse : Step S K σ α → (Failure → Step S K σ α) → Step S K σ α
  | .done (.ok a), _ => .done (.ok a)
  | .done (.error e), handler => handler e
  | .next move rest, handler => .next move fun b => (rest b).orElse handler

/-- A single move. -/
def once (move : Run S K σ → Except Failure α × Run S K σ) : Step S K σ α := .next move .done

instance : Monad (Step S K σ) where
  pure a := .done (.ok a)
  bind := Step.bind

instance : MonadExceptOf Failure (Step S K σ) where
  throw e := .done (.error e)
  tryCatch := Step.orElse

instance : MonadStateOf (Run S K σ) (Step S K σ) where
  get := once fun run => (.ok run, run)
  set run := once fun _ => (.ok (), run)
  modifyGet f := once fun run => ((.ok (f run).1), (f run).2)

/-- Makes all moves one after another. -/
protected def run : Step S K σ α → Run S K σ → Except Failure α × Run S K σ
  | .done result, now => (result, now)
  | .next move rest, now =>
    match move now with
    | (b, now) => (rest b).run now

def note (level : Level) (message : String) : Step S K σ Unit :=
  modify fun run => { run with log := run.log.push ⟨level, .engine, message⟩ }

def count (f : Stats → Stats) : Step S K σ Unit :=
  modify fun run => { run with engine.stats := f run.engine.stats }

/-- A move that touches nothing but the world. -/
def onWorld (f : σ → α × σ) (run : Run S K σ) : α × Run S K σ :=
  let (a, world) := f run.world
  (a, { run with world })

/-- Acts on the world. -/
def act (f : σ → Except Failure α × σ) : Step S K σ α := once (onWorld f)

/-- Runs the step and hands out a propagation error as a value; other failures pass. -/
def attempt (step : Step S K σ Unit) : Step S K σ (Option PropagationError) :=
  tryCatch (do step; return none) fun
    | .propagation e => return some e
    | e => throw e

end Step

open Step

/-- Swaps in another graph with its outputs, or fails because a virtual device has none. -/
def swap (graph : Graph S) (outputs : OrderedMap String K) : Step S K σ Unit :=
  once fun run =>
    match run.engine.swap? graph outputs with
    | .ok engine => (.ok (), { run with engine, log := run.log.push (swapEntry graph) })
    | .error names => (.error (.configuration (.missingOutputs names)), run)

/-! ### Serving an update -/

/-- The value of a physical axis at this moment. -/
def readAxis (access : DeviceAccess S K σ) (graph : Graph S) (key : AxisKey) : Step S K σ Int :=
  match graph.sources.find? key.device with
  | none => throw (.propagation (.readFailed key "device is not defined"))
  | some source => act (access.read source key.axis)

/-- Reads the dependencies that are not known yet. -/
def gather (access : DeviceAccess S K σ) (graph : Graph S) :
    List AxisKey → List (AxisKey × Int) → Step S K σ (List (AxisKey × Int))
  | [], known => return known
  | key :: keys, known =>
    if known.any fun e => e.1 == key then gather access graph keys known
    else do
      let value ← readAxis access graph key
      gather access graph keys (known ++ [(key, value)])

/-- The output at the place `deviceId`.  Places below 0 are counted from the end. -/
def outputAt (arena : List K) (deviceId : Int) : Option K :=
  if 0 ≤ deviceId then arena[deviceId.toNat]?
  else if 0 ≤ arena.length + deviceId then arena[(arena.length + deviceId).toNat]?
  else none

/-- Computes the virtual axis `v` for the update and writes it. -/
def recompute (access : DeviceAccess S K σ) (graph : Graph S) (arena : List K) (update : Update)
    (v : VirtAxis) : Step S K σ Unit := do
  let known ← gather access graph v.dependencies [(update.key, update.value)]
  match v.expr.evaluate (.ofList known) with
  | .error e => throw (.propagation (.ofEval e))
  | .ok value =>
    note .debug ("Calculated new value " ++ toString value ++ " for virtual axis " ++ v.key.text)
    match outputAt arena v.deviceId with
    | none => throw (.noOutput v.deviceId)
    | some output => act (access.write output v.key.axis value)

/-- What the log says of a virtual axis that is skipped. -/
def skipMessage (update : Update) (v : VirtAxis) (e : PropagationError) : String :=
  "Skipping virtual axis " ++ v.key.text ++ " for update " ++ update.key.text ++ "=" ++
    toString update.value ++ ": " ++ e.message

/-- Recomputes the virtual axes one after another and returns how many were written, in addition
to `written`. -/
def recomputeAll (access : DeviceAccess S K σ) (graph : Graph S) (arena : List K) (failFast : Bool)
    (update : Update) : List VirtAxis → (written : Nat) → Step S K σ Nat
  | [], written => return written
  | v :: rest, written => do
    match ← attempt (recompute access graph arena update v) with
    | none => recomputeAll access graph arena failFast update rest (written + 1)
    | some e =>
      count fun stats => { stats with failed := stats.failed + 1 }
      if failFast then throw (.propagation e)
      note .warning (skipMessage update v e)
      recomputeAll access graph arena failFast update rest written

/-- Serves one update with the graph and the outputs of `engine`, and returns the number of virtual
axes written.  The statistics take them in when the last one is done. -/
def handleWith (access : DeviceAccess S K σ) (update : Update) (engine : Engine S K) :
    Step S K σ Nat := do
  count fun stats => { stats with received := stats.received + 1 }
  match engine.graph.realAxes.find? update.key with
  | none =>
    count fun stats => { stats with ignored := stats.ignored + 1 }
    note .debug ("Ignoring update for axis " ++ update.key.text ++ " which is not used")
    return 0
  | some real =>
    let written ← recomputeAll access engine.graph engine.arena engine.failFast update
      real.downstream 0
    count fun stats => { stats with written := stats.written + written }
    return written

/-- Serves one update with the graph and the outputs of the moment. -/
def handle (access : DeviceAccess S K σ) (update : Update) : Step S K σ Nat := do
  handleWith access update (← get).engine

/-- What the log says when the updates have come to an end. -/
def finishMessage (stats : Stats) : String :=
  "Update stream finished: " ++ toString stats.received ++ " received, " ++
    toString stats.ignored ++ " ignored, " ++ toString stats.written ++ " written, " ++
    toString stats.failed ++ " failed"

/-- Serves the updates in their order. -/
def handleAll (access : DeviceAccess S K σ) : List Update → Step S K σ Unit
  | [] => do note .debug (finishMessage (← get).engine.stats)
  | update :: rest => do
    let _ ← handle access update
    handleAll access rest

end Engine

end AxisMixer
