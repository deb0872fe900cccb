import AxisMixer.Proofs.Engine.Statistics

/-!
# Engine — another graph for the updates to come

A graph is swapped in together with its outputs, or it is rejected because a virtual device has no
output.  Here it is said what this means for whatever is asked of the engine later: after a swap it
does what an engine does that was created with the new graph, and after a rejected one, or one whose
graph cannot be built, it does what it would have done anyway (`history_swap`).

What can be seen of an engine is its `history`: its replies, what it does to the devices, and its
statistics.  The engine looks at itself once for each update, to find the graph and the outputs.
Everything else is `Step.Blind`: it does the same in any engine and behind any log, and adds to the
statistics and the log what it would have put there at the beginning.

* `Step.Through`: a step takes no notice of a change of the running engine.
* `Step.Blind`: a step takes no notice of the engine.
* `DeviceAccess.recorded`: what is done to the devices is recorded.
* `history_anew`: an engine goes on as if it had just been created, but for its statistics.
-/

namespace AxisMixer

/-! ### Statistics -/

namespace Stats

instance : Add Stats where
  add s t :=
    ⟨s.received + t.received, s.ignored + t.ignored, s.written + t.written, s.failed + t.failed⟩

end Stats

namespace Engine

variable {S K σ α β : Type}

/-! ### Steps that take no notice of what came before -/

namespace Step

/-- The step takes no notice of a change of the running engine: each of its moves gives the same,
and does the same behind the change. -/
def Through (φ : Run S K σ → Run S K σ) : Step S K σ α → Prop
  | .done _ => True
  | .next move rest =>
    (∀ run, move (φ run) = ((move run).1, φ (move run).2)) ∧ ∀ b, Through φ (rest b)

variable {φ : Run S K σ → Run S K σ}

theorem through_pure (a : α) : Through φ (pure a : Step S K σ α) := trivial

theorem through_throw (e : Failure) : Through φ (throw e : Step S K σ α) := trivial

theorem through_once {move : Run S K σ → Except Failure α × Run S K σ}
    (h : ∀ run, move (φ run) = ((move run).1, φ (move run).2)) : Through φ (once move) :=
  ⟨h, fun _ => trivial⟩

theorem Through.bind {step : Step S K σ α} {f : α → Step S K σ β} (h : Through φ step)
    (hf : ∀ a, Through φ (f a)) : Through φ (step >>= f) := by
  induction step with
  | done result =>
      cases result with
      | error e => trivial
      | ok a => exact hf a
  | next move rest ih => exact ⟨h.1, fun b => ih b (h.2 b)⟩

theorem Through.tryCatch {step : Step S K σ α} {handler : Failure → Step S K σ α}
    (h : Through φ step) (hh : ∀ e, Through φ (handler e)) :
    Through φ (tryCatch step handler) := by
  induction step with
  | done result =>
      cases result with
      | error e => exact hh e
      | ok a => trivial
  | next move rest ih => exact ⟨h.1, fun b => ih b (h.2 b)⟩

theorem Through.attempt {step : Step S K σ Unit} (h : Through φ step) :
    Through φ (attempt step) := by
  refine (h.bind fun _ => through_pure _).tryCatch fun e => ?_
  cases e <;> trivial

/-- A whole step comes to the same result behind the change. -/
theorem Through.outcome {step : Step S K σ α} (h : Through φ step) (run : Run S K σ) :
    step.outcome (φ run) = ((step.outcome run).1, φ (step.outcome run).2) := by
  induction step generalizing run with
  | done result => rfl
  | next move rest ih =>
      rw [outcome_next, outcome_next, h.1]
      exact ih _ (h.2 _) _

/-- Neither the log nor the devices take notice of the change. -/
structure Harmless (access : DeviceAccess S K σ) (φ : Run S K σ → Run S K σ) : Prop where
  note : ∀ level message, Through φ (note level message : Step S K σ Unit)
  read : ∀ source axis, Through φ (act (access.read source axis) : Step S K σ Int)
  write : ∀ output axis n, Through φ (act (access.write output axis n) : Step S K σ Unit)

namespace Harmless

variable {access : DeviceAccess S K σ} (h : Harmless access φ) (graph : Graph S) (arena : List K)
  (update : Update)
include h

theorem readAxis (key : AxisKey) : Through φ (readAxis access graph key : Step S K σ Int) := by
  rw [Engine.readAxis]
  split
  · exact through_throw _
  · exact h.read _ _

theorem gather :
    ∀ keys known, Through φ (gather access graph keys known : Step S K σ (List (AxisKey × Int)))
  | [], known => through_pure known
  | key :: keys, known => by
      rw [Engine.gather]
      split
      · exact gather keys known
      · exact (h.readAxis graph key).bind fun value => gather keys _

theorem recompute (v : VirtAxis) : Through φ (recompute access graph arena update v) := by
  refine (h.gather graph v.dependencies _).bind fun known => ?_
  split
  · exact through_throw _
  · refine (h.note _ _).bind fun _ => ?_
    split
    · exact through_throw _
    · exact h.write _ _ _

end Harmless

end Step

/-! ### Steps that take no notice of the engine -/

/-- The running engine as it is if the engine `e` and the log came before it. -/
def Run.within (e : Engine S K) (log : Log) (run : Run S K σ) : Run S K σ :=
  ⟨{ e with stats := e.stats + run.engine.stats }, run.world, log ++ run.log⟩

/-- The engine with its graph and outputs, which has served no update, and an empty log. -/
def Run.anew (run : Run S K σ) : Run S K σ := ⟨{ run.engine with stats := {} }, run.world, #[]⟩

theorem Run.within_anew (run : Run S K σ) : run.anew.within run.engine run.log = run := by
  simp only [within, anew, Array.append_empty]
  rfl

namespace Step

/-- The step takes no notice of the engine and the log: whatever came before, it comes to the same
result, does the same to the world, and adds the same to the statistics and the log. -/
def Blind (step : Step S K σ α) : Prop := ∀ e log, Through (Run.within e log) step

theorem blind_pure (a : α) : Blind (pure a : Step S K σ α) := fun _ _ => through_pure a

theorem blind_throw (e : Failure) : Blind (throw e : Step S K σ α) := fun _ _ => through_throw e

theorem blind_note (level : Level) (message : String) :
    Blind (note level message : Step S K σ Unit) := by
  refine fun e log => through_once fun run => ?_
  simp only [Run.within, Array.append_push]

theorem blind_count {f : Stats → Stats} (h : ∀ s t, f (s + t) = s + f t) :
    Blind (count f : Step S K σ Unit) := by
  refine fun e log => through_once fun run => ?_
  simp only [Run.within, h]

theorem blind_act (f : σ → Except Failure α × σ) : Blind (act f : Step S K σ α) :=
  fun _ _ => through_once fun _ => rfl

theorem Blind.bind {step : Step S K σ α} {f : α → Step S K σ β} (h : Blind step)
    (hf : ∀ a, Blind (f a)) : Blind (step >>= f) :=
  fun e log => (h e log).bind fun a => hf a e log

theorem Blind.attempt {step : Step S K σ Unit} (h : Blind step) : Blind (attempt step) :=
  fun e log => (h e log).attempt

theorem Blind.outcome {step : Step S K σ α} (h : Blind step) (e : Engine S K) (log : Log)
    (run : Run S K σ) :
    step.outcome (run.within e log) =
      ((step.outcome run).1, (step.outcome run).2.within e log) :=
  (h e log).outcome run

/-- A blind step changes nothing of the engine but its statistics. -/
theorem Blind.engine {step : Step S K σ α} (h : Blind step) (run : Run S K σ) :
    (step.outcome run).2.engine =
      { run.engine with stats := (step.outcome run).2.engine.stats } := by
  rw [← run.within_anew, h.outcome]
  rfl

end Step

open Step

section Serving

variable (access : DeviceAccess S K σ) (graph : Graph S) (arena : List K) (failFast : Bool)
  (update : Update)

theorem harmless_within (e : Engine S K) (log : Log) : Harmless access (Run.within e log) where
  note level message := blind_note level message e log
  read source axis := blind_act (access.read source axis) e log
  write output axis n := blind_act (access.write output axis n) e log

theorem blind_recompute (v : VirtAxis) : Blind (recompute access graph arena update v) :=
  fun e log => (harmless_within access e log).recompute graph arena update v

theorem blind_recomputeAll :
    ∀ vs written, Blind (recomputeAll access graph arena failFast update vs written)
  | [], written => blind_pure written
  | v :: rest, written => by
      refine (blind_recompute access graph arena update v).attempt.bind fun skipped => ?_
      cases skipped with
      | none => exact blind_recomputeAll rest (written + 1)
      | some e =>
          have hcount : Blind (count fun stats => { stats with failed := stats.failed + 1 } :
              Step S K σ Unit) := blind_count fun _ _ => rfl
          have hrest : Blind (do
              note .warning (skipMessage update v e)
              recomputeAll access graph arena failFast update rest written) :=
            (blind_note _ _).bind fun _ => blind_recomputeAll rest written
          refine hcount.bind fun _ => ?_
          split
          · exact (blind_throw _).bind fun _ => hrest
          · exact hrest

theorem blind_handleWith (engine : Engine S K) : Blind (handleWith access update engine) := by
  have hreceived : Blind (count fun stats => { stats with received := stats.received + 1 } :
      Step S K σ Unit) := blind_count fun _ _ => rfl
  refine hreceived.bind fun _ => ?_
  split
  · have hignored : Blind (count fun stats => { stats with ignored := stats.ignored + 1 } :
        Step S K σ Unit) := blind_count fun _ _ => rfl
    exact hignored.bind fun _ => (blind_note _ _).bind fun _ => blind_pure _
  · refine (blind_recomputeAll _ _ _ _ _ _ _).bind fun written => ?_
    refine Blind.bind (blind_count fun s t => ?_) fun _ => blind_pure _
    exact congrArg (Stats.mk _ _ · _) (Nat.add_assoc _ _ _)

end Serving

/-! ### Requests behind others -/

/-- The running engine as it is if these statistics and this log came before it. -/
def Run.onTop (stats : Stats) (log : Log) (run : Run S K σ) : Run S K σ :=
  run.within { run.engine with stats } log

theorem Run.onTop_anew (run : Run S K σ) : run.anew.onTop run.engine.stats run.log = run :=
  run.within_anew

section Requests

variable (access : DeviceAccess S K σ) (stats : Stats) (log : Log) (run : Run S K σ)

theorem outcome_handle_onTop (update : Update) :
    (handle access update).outcome (run.onTop stats log) =
      (((handle access update).outcome run).1,
        ((handle access update).outcome run).2.onTop stats log) := by
  have hblind := blind_handleWith access update run.engine
  have hlook : handleWith access update (run.onTop stats log).engine =
      handleWith access update run.engine := rfl
  rw [outcome_handle, hlook, outcome_handle, Run.onTop, hblind.outcome, Run.onTop, hblind.engine]

theorem outcome_swap_onTop (graph : Graph S) (outputs : OrderedMap String K) :
    (swap graph outputs).outcome (run.onTop stats log) =
      (((swap graph outputs).outcome run).1,
        ((swap graph outputs).outcome run).2.onTop stats log) := by
  rw [swap, outcome_once, outcome_once, swap?, swap?]
  cases arenaOf graph outputs with
  | error names => rfl
  | ok arena => simp only [Except.map, Run.onTop, Run.within, Array.append_push]

/-- What an engine replies to a request. -/
inductive Reply where
  | handled (result : Except Failure Nat)
  | swapped (result : Except Failure Unit)
  /-- Nothing was asked of the engine. -/
  | silent

def reply (run : Run S K σ) : Request S K σ → Reply
  | .handle update => .handled ((handle access update).outcome run).1
  | .swap graph outputs => .swapped ((swap graph outputs).outcome run).1
  | .turn _ => .silent

theorem reply_onTop (request : Request S K σ) :
    reply access (run.onTop stats log) request = reply access run request := by
  cases request with
  | handle update => rw [reply, reply, outcome_handle_onTop]
  | swap graph outputs => rw [reply, reply, outcome_swap_onTop]
  | turn change => rfl

theorem comply_onTop (request : Request S K σ) :
    comply access (run.onTop stats log) request = (comply access run request).onTop stats log := by
  cases request with
  | handle update => rw [comply, outcome_handle_onTop, comply]
  | swap graph outputs => rw [comply, outcome_swap_onTop, comply]
  | turn change => rfl

end Requests

/-! ### Histories -/

/-- What can be seen of an engine while it complies with requests: its replies, the world it leaves
and its statistics. -/
structure History (σ : Type) where
  replies : List Reply
  world : σ
  stats : Stats

/-- The history with these statistics at its beginning. -/
def History.since (stats : Stats) (h : History σ) : History σ := { h with stats := stats + h.stats }

/-- What can be seen of the engine while it complies with the requests. -/
def history (access : DeviceAccess S K σ) : List (Request S K σ) → Run S K σ → History σ
  | [], run => ⟨[], run.world, run.engine.stats⟩
  | request :: rest, run =>
    let later := history access rest (comply access run request)
    { later with replies := reply access run request :: later.replies }

theorem history_onTop (access : DeviceAccess S K σ) (stats : Stats) (log : Log) :
    ∀ (requests : List (Request S K σ)) (run : Run S K σ),
      history access requests (run.onTop stats log) = (history access requests run).since stats
  | [], _ => rfl
  | request :: rest, run => by
      rw [history, comply_onTop, history_onTop access stats log rest, reply_onTop, history]
      rfl

/-- **An engine goes on as if it had just been created**, but for its statistics. -/
theorem history_anew (access : DeviceAccess S K σ) (requests : List (Request S K σ))
    (run : Run S K σ) :
    history access requests run = (history access requests run.anew).since run.engine.stats := by
  rw [← history_onTop access _ run.log, run.onTop_anew]

/-! ### A record of what is done to devices -/

/-- What was done to a device, and what came of it. -/
inductive Contact (S K : Type) where
  | read (source : S) (axis : Axis) (result : Except Failure Int)
  | write (output : K) (axis : Axis) (value : Int) (result : Except Failure Unit)

/-- A state of the devices, and what has been done to them, the latest contact last. -/
structure Recorded (S K σ : Type) where
  state : σ
  contacts : List (Contact S K)

end Engine

open Engine (Contact Recorded) in
/-- The devices, with a record of what is done to them. -/
def DeviceAccess.recorded {S K σ : Type} (access : DeviceAccess S K σ) :
    DeviceAccess S K (Recorded S K σ) where
  read source axis w :=
    let (result, state) := access.read source axis w.state
    (result, ⟨state, w.contacts ++ [.read source axis result]⟩)
  write output axis value w :=
    let (result, state) := access.write output axis value w.state
    (result, ⟨state, w.contacts ++ [.write output axis value result]⟩)

namespace Engine

variable {S K σ : Type}

/-- The request to devices on record. -/
def Request.recorded : Request S K σ → Request S K (Recorded S K σ)
  | .handle update => .handle update
  | .swap graph outputs => .swap graph outputs
  | .turn change => .turn fun w => { w with state := change w.state }

/-! ### Swaps -/

/-- Builds the graph of another configuration and swaps it in. -/
def rebuild (view : SourceView S) (sources : OrderedMap String S)
    (virtual : OrderedMap String Output) (outputs : OrderedMap String K) (run : Run S K σ) :
    Except Failure Unit × Run S K σ :=
  let (built, entries) := Graph.build view sources virtual
  let run := { run with log := run.log ++ entries }
  match built with
  | .error e => (.error (.configuration (.dependency e)), run)
  | .ok graph => (swap graph outputs).outcome run

theorem missingOutputs_eq (graph : Graph S) (outputs : OrderedMap String K) :
    missingOutputs graph outputs = graph.devices.filter fun name => name ∉ outputs.keys := by
  refine List.filter_congr fun name _ => ?_
  simp only [decide_not, ← OrderedMap.contains_iff, Bool.decide_eq_true]

theorem swap_rejected (run : Run S K σ) {graph : Graph S} {outputs : OrderedMap String K}
    (h : missingOutputs graph outputs ≠ []) :
    (swap graph outputs).outcome run =
      (.error (.configuration (.missingOutputs (missingOutputs graph outputs))), run) := by
  rcases swap_cases run graph outputs with ⟨_, hm, -, -⟩ | ⟨-, hs⟩
  · exact absurd hm h
  · exact hs

/-- When a graph is swapped in, the engine is the one that would be created with it, but for its
statistics. -/
theorem swap_accepted (run : Run S K σ) {graph : Graph S} {outputs : OrderedMap String K}
    (h : missingOutputs graph outputs = []) :
    ∃ fresh log, create graph outputs run.engine.failFast = .ok fresh ∧ fresh.stats = {} ∧
      (swap graph outputs).outcome run =
        (.ok (), ⟨{ fresh with stats := run.engine.stats }, run.world, log⟩) := by
  rcases swap_cases run graph outputs with ⟨arena, -, ha, hs⟩ | ⟨hm, -⟩
  · exact ⟨_, _, by rw [create, ha]; rfl, rfl, hs⟩
  · exact absurd h hm

/-- **A swap is all or nothing.**  If virtual devices of the new graph have no output, the swap is
rejected with their names in the order of the graph, and the engine goes on as if there had been no
swap.  Otherwise it goes on as an engine that has just been created with the graph and the outputs,
and only its statistics are added to those before.  If the new graph cannot be built, the engine
goes on as it is. -/
theorem history_swap (access : DeviceAccess S K σ) (run : Run S K (Recorded S K σ))
    (graph : Graph S) (outputs : OrderedMap String K) :
    let missing := graph.devices.filter fun name => name ∉ outputs.keys
    let asked := (swap graph outputs).outcome run
    let seen (run : Run S K (Recorded S K σ)) (later : List (Request S K σ)) :=
      history access.recorded (later.map .recorded) run
    (missing ≠ [] →
      asked.1 = .error (.configuration (.missingOutputs missing)) ∧
        ∀ later, seen asked.2 later = seen run later) ∧
    (missing = [] →
      asked.1 = .ok () ∧
        ∃ fresh, create graph outputs run.engine.failFast = .ok fresh ∧
          ∀ later, seen asked.2 later =
            (seen ⟨fresh, run.world, #[]⟩ later).since run.engine.stats) ∧
    ∀ (view : SourceView S) (sources : OrderedMap String S) (virtual : OrderedMap String Output)
      (e : DependencyError), (Graph.build view sources virtual).1 = .error e →
        let rebuilt := rebuild view sources virtual outputs run
        rebuilt.1 = .error (.configuration (.dependency e)) ∧
          ∀ later, seen rebuilt.2 later = seen run later := by
  intro missing asked seen
  have hmissing : missingOutputs graph outputs = missing := missingOutputs_eq graph outputs
  refine ⟨fun h => ?_, fun h => ?_, fun view sources virtual e he => ?_⟩
  · rw [← hmissing] at h ⊢
    have hasked : asked = _ := swap_rejected run h
    rw [hasked]
    exact ⟨rfl, fun later => rfl⟩
  · rw [← hmissing] at h
    obtain ⟨fresh, log, hfresh, hstats, hasked⟩ := swap_accepted run h
    change asked = _ at hasked
    rw [hasked]
    refine ⟨rfl, fresh, hfresh, fun later => ?_⟩
    simp only [seen]
    rw [history_anew, Run.anew, ← hstats]
  · rcases hb : Graph.build view sources virtual with ⟨built, entries⟩
    rw [hb] at he
    cases he
    simp only [rebuild, hb, seen]
    -- only the log differs
    refine ⟨trivial, fun later => ?_⟩
    rw [history_anew, history_anew access.recorded _ run]
    rfl

/-- Behind an update that four virtual axes depend on, a graph without outputs is rejected.  With
its output it is swapped in, and then one virtual axis depends on `B:Y`.  A graph over `A` alone
cannot be built. -/
theorem history_swap_plain :
    ∃ graph next engine,
      (Graph.build ⟨id, fun _ _ => true⟩ (.ofList [("A", "A"), ("B", "B")])
        (.ofList [("out", Rig.quotients)])).1 = .ok graph ∧
      (Graph.build ⟨id, fun _ _ => true⟩ (.ofList [("A", "A"), ("B", "B")])
        (.ofList [("out", plain)])).1 = .ok next ∧
      create graph (.ofList [("out", "out")]) false = .ok engine ∧
      let access := Rig.looped.access.recorded
      let run := after access [.handle ⟨⟨"A", .x⟩, 7⟩] ⟨engine, ⟨⟨fun _ => 0, []⟩, []⟩, #[]⟩
      let seen (run : Run String String _) :=
        history access [(Request.handle ⟨⟨"B", .y⟩, 9⟩).recorded] run
      ((swap next .empty).outcome run).1 = .error (.configuration (.missingOutputs ["out"])) ∧
      seen (comply access run (.swap next .empty)) = seen run ∧
      (seen run).stats = ⟨2, 0, 4, 2⟩ ∧
      (seen (comply access run (.swap next (.ofList [("out", "out")])))).stats = ⟨2, 0, 3, 2⟩ ∧
      seen (rebuild ⟨id, fun _ _ => true⟩ (.ofList [("A", "A")])
        (.ofList [("out", plain)]) (.ofList [("out", "out")]) run).2 = seen run := by
  obtain ⟨graph, hg⟩ : ∃ graph, (Graph.build ⟨id, fun _ _ => true⟩
      (.ofList [("A", "A"), ("B", "B")]) (.ofList [("out", Rig.quotients)])).1 = .ok graph :=
    ⟨_, rfl⟩
  obtain ⟨next, hn⟩ : ∃ next, (Graph.build ⟨id, fun _ _ => true⟩
      (.ofList [("A", "A"), ("B", "B")]) (.ofList [("out", plain)])).1 = .ok next :=
    ⟨_, rfl⟩
  obtain ⟨engine, he⟩ : ∃ engine, create graph (.ofList [("out", "out")]) false = .ok engine := by
    cases hg
    exact ⟨_, rfl⟩
  refine ⟨graph, next, engine, hg, hn, he, ?_⟩
  intro access run seen
  have hdevices : next.devices = ["out"] := (Graph.of_build hn).2.1
  obtain ⟨hrejected, -, -⟩ := history_swap Rig.looped.access run next .empty
  obtain ⟨-, haccepted, hrebuilt⟩ :=
    history_swap Rig.looped.access run next (.ofList [("out", "out")])
  obtain ⟨e, hbuild⟩ : ∃ e, (Graph.build ⟨id, fun _ _ => true⟩ (.ofList [("A", "A")])
      (.ofList [("out", plain)])).1 = .error e :=
    ⟨_, rfl⟩
  rw [hdevices] at hrejected haccepted
  obtain ⟨hnames, hsame⟩ := hrejected (by decide)
  obtain ⟨-, fresh, hfresh, hnext⟩ := haccepted (by decide)
  have hstats := congrArg History.stats (hnext [.handle ⟨⟨"B", .y⟩, 9⟩])
  refine ⟨hnames, hsame [.handle ⟨⟨"B", .y⟩, 9⟩], ?_, ?_, ?_⟩
  · cases hg
    cases he
    decide +kernel
  · cases hg
    cases hn
    cases he
    cases hfresh
    exact hstats.trans (by decide +kernel)
  · exact (hrebuilt _ _ _ e hbuild).2 [.handle ⟨⟨"B", .y⟩, 9⟩]

end Engine

end AxisMixer
