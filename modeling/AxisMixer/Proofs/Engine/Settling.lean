import AxisMixer.Proofs.Engine.Serving
import AxisMixer.Session

/-!
# Engine — once the updates are served, the outputs are right

A `Flow` is a running engine with a queue of updates.  A physical axis may change at any time,
which queues an update, and the engine may serve the update at the head of the queue.  An update
may be old when it is served: its own axis is bound to the value of the update and every other
dependency to the value it has by then, so what is written may mix values that never stood
together.

Two facts hold throughout (`Flow.Consistent`).  The last update queued for an axis has the value
of the axis (`latest`), so the last update for an axis to be served is served with current values
only.  Hence a virtual axis that has been served, with none of its dependencies in the queue, has
been written its current value last (`settled`).

* `Rig.Steady`: what the engine reads and writes succeeds, and writing changes no value.
* `Rig.lastWritten`: the value of an axis of an output.
* `Flow.settled_output`: the outputs after any number of changes and services.
-/

namespace AxisMixer

namespace Rig

variable {S K σ : Type} [DecidableEq K]

/-! ### What was written last -/

/-- The value that the act gives the axis of the output. -/
def Act.writes (output : K) (axis : Axis) : Act S K → Option Int
  | .wrote output' axis' n => if output' = output ∧ axis' = axis then some n else none
  | .read _ _ | .refused _ _ _ => none

/-- The value that the axis of the output was given last. -/
def lastWritten (output : K) (axis : Axis) (acts : List (Act S K)) : Option Int :=
  acts.reverse.findSome? (Act.writes output axis)

variable {output : K} {axis : Axis}

theorem lastWritten_append (acts later : List (Act S K)) :
    lastWritten output axis (acts ++ later) =
      (lastWritten output axis later).or (lastWritten output axis acts) := by
  simp only [lastWritten, List.reverse_append, List.findSome?_append]

/-- What is written for `v` goes to this axis of this output. -/
def WritesTo (outputs : OrderedMap String K) (v : VirtAxis) (output : K) (axis : Axis) : Prop :=
  outputs.find? v.key.device = some output ∧ v.key.axis = axis

instance (outputs : OrderedMap String K) (v : VirtAxis) :
    Decidable (WritesTo outputs v output axis) :=
  inferInstanceAs (Decidable (_ ∧ _))

theorem lastWritten_wrote (outputs : OrderedMap String K) (v : VirtAxis) (n : Int) :
    lastWritten output axis (actOn (S := S) outputs v.key.device (.wrote · v.key.axis n)) =
      if WritesTo outputs v output axis then some n else none := by
  cases h : outputs.find? v.key.device with
  | none => simp [lastWritten, actOn, WritesTo, h]
  | some o => simp [lastWritten, actOn, WritesTo, h, Act.writes]

theorem lastWritten_refused (outputs : OrderedMap String K) (v : VirtAxis) (n : Int) :
    lastWritten output axis (actOn (S := S) outputs v.key.device (.refused · v.key.axis n)) =
      none := by
  simp only [lastWritten, actOn]
  cases outputs.find? v.key.device <;> simp [Act.writes]

variable (rig : Rig S K σ) (sources : OrderedMap String S) (outputs : OrderedMap String K)
  (update : Update)

theorem lastWritten_reads (st : σ) (keys : List AxisKey) :
    lastWritten output axis (rig.reads sources st keys) = none := by
  refine List.findSome?_eq_none_iff.mpr fun act hact => ?_
  obtain ⟨k, -, hk⟩ := List.mem_flatMap.mp (List.mem_reverse.mp hact)
  obtain ⟨source, -, rfl⟩ := Option.map_eq_some_iff.mp (Option.mem_toList.mp hk)
  rfl

variable {outputs} in
/-- Serving a virtual axis writes on no axis but its own. -/
theorem lastWritten_serveAxis {v : VirtAxis} (hv : ¬ WritesTo outputs v output axis) (st : σ) :
    lastWritten output axis (rig.serveAxis sources outputs update st v).1 = none := by
  rw [serveAxis]
  split
  · exact rig.lastWritten_reads sources st _
  · split
    · rw [lastWritten_append, lastWritten_wrote, if_neg hv, lastWritten_reads]
      rfl
    · rw [lastWritten_append, lastWritten_refused, lastWritten_reads]
      rfl

variable {outputs} in
theorem lastWritten_serve_of_not :
    ∀ {vs : List VirtAxis}, (∀ v ∈ vs, ¬ WritesTo outputs v output axis) → ∀ st : σ,
      lastWritten output axis (rig.serve sources outputs update vs st).acts = none
  | [], _, _ => rfl
  | v :: rest, h, st => by
      have hv := rig.lastWritten_serveAxis sources update (h v List.mem_cons_self) st
      have ih := lastWritten_serve_of_not fun w hw => h w (List.mem_cons_of_mem _ hw)
      rw [serve]
      rcases hs : rig.serveAxis sources outputs update st v with ⟨acts, e | st'⟩
      · rw [hs] at hv
        simp only [lastWritten_append, ih, hv, Option.or_none]
      · rw [hs] at hv
        simp only [lastWritten_append, ih, hv, Option.or_none]

/-! ### Serving when nothing fails -/

/-- The dependencies of the virtual axes are read with their values.  What may come to be written on
the virtual axes is accepted, and changes no value.  Other axes of the devices need not exist. -/
structure Steady (vs : List VirtAxis) (values : σ → AxisKey → Int) : Prop where
  reads : ∀ v ∈ vs, ∀ k ∈ v.dependencies, ∀ st, rig.look sources k st = .ok (values st k)
  writes : ∀ v ∈ vs, ∀ b n, v.expr.evaluate b = .ok n → ∀ st,
    ∃ st', rig.put outputs v.key n st = .ok st' ∧ values st' = values st

/-- The axis of the update has the value of the update, every other axis the value given. -/
def mixed (values : AxisKey → Int) : Bindings := fun k =>
  some (if k = update.key then update.value else values k)

variable {rig sources outputs} {vs : List VirtAxis} {values : σ → AxisKey → Int}

omit [DecidableEq K] in
theorem Steady.mono (hr : rig.Steady sources outputs vs values) {ws : List VirtAxis} (h : ws ⊆ vs) :
    rig.Steady sources outputs ws values where
  reads v hv := hr.reads v (h hv)
  writes v hv := hr.writes v (h hv)

omit [DecidableEq K] in
/-- A virtual axis is evaluated with the update and the values of the moment. -/
theorem result_of_steady (hr : rig.Steady sources outputs vs values) {v : VirtAxis} (hv : v ∈ vs)
    (st : σ) :
    rig.result sources update st v =
      (v.expr.evaluate (mixed update (values st))).mapError .ofEval := by
  have hlook : ∀ k ∈ v.dependencies, rig.look sources k st = .ok (values st k) :=
    fun k hk => hr.reads v hv k hk st
  have hfault : (awaited update v).findSome? (rig.fault? sources st) = none :=
    List.findSome?_eq_none_iff.mpr fun k hk => fault?_of_ok (hlook k (List.mem_of_mem_filter hk))
  have hseen : v.expr.evaluate (rig.seen sources update st v) =
      v.expr.evaluate (mixed update (values st)) := by
    refine Expr.evaluate_congr fun k hk => ?_
    change k ∈ v.dependencies at hk
    by_cases e : k = update.key
    · simp only [seen, mixed, if_pos e]
    · simp only [seen, mixed, if_neg e, if_pos hk, hlook k hk, Except.toOption]
  rw [result, hfault, hseen]

/-- A virtual axis with a value is written this value. -/
theorem serveAxis_of_steady (hr : rig.Steady sources outputs vs values) {v : VirtAxis}
    (hv : v ∈ vs) {st : σ} {n : Int} (hn : v.expr.evaluate (mixed update (values st)) = .ok n)
    (ho : WritesTo outputs v output axis) :
    ∃ acts st', rig.serveAxis sources outputs update st v = (acts, .ok st') ∧
      lastWritten output axis acts = some n ∧ values st' = values st := by
  obtain ⟨st', hput, hst⟩ := hr.writes v hv _ n hn st
  refine ⟨rig.reads sources st (awaited update v) ++
    actOn outputs v.key.device (.wrote · v.key.axis n), st', ?_, ?_, hst⟩
  · simp only [serveAxis, result_of_steady update hr hv, hn, Engine.Step.mapError_ok, hput]
  · rw [lastWritten_append, lastWritten_wrote, if_pos ho]
    rfl

omit [DecidableEq K] in
theorem values_serveAxis (hr : rig.Steady sources outputs vs values) {v : VirtAxis} (hv : v ∈ vs)
    {st st' : σ} {acts : List (Act S K)}
    (h : rig.serveAxis sources outputs update st v = (acts, .ok st')) :
    values st' = values st := by
  rw [serveAxis, result_of_steady update hr hv] at h
  cases hn : v.expr.evaluate (mixed update (values st)) with
  | error e =>
      simp only [hn, Engine.Step.mapError_error] at h
      cases h
  | ok n =>
      obtain ⟨_, hput, hst⟩ := hr.writes v hv _ n hn st
      simp only [hn, Engine.Step.mapError_ok, hput] at h
      cases h
      exact hst

omit [DecidableEq K] in
theorem values_serve :
    ∀ {vs : List VirtAxis}, rig.Steady sources outputs vs values → ∀ st : σ,
      values (rig.serve sources outputs update vs st).state = values st
  | [], _, _ => rfl
  | v :: rest, hr, st => by
      have hrest := hr.mono (List.subset_cons_self v rest)
      rw [serve]
      rcases hs : rig.serveAxis sources outputs update st v with ⟨acts, e | st'⟩
      · exact values_serve hrest st
      · exact (values_serve hrest st').trans (values_serveAxis update hr List.mem_cons_self hs)

/-- **The service of an axis.**  Among virtual axes that write to different places, each that has
a value is written this value last. -/
theorem lastWritten_serve {v : VirtAxis} {n : Int} (ho : WritesTo outputs v output axis) :
    ∀ {vs : List VirtAxis}, rig.Steady sources outputs vs values → vs.Nodup → v ∈ vs →
      (∀ w ∈ vs, WritesTo outputs w output axis → w = v) →
      ∀ st : σ, v.expr.evaluate (mixed update (values st)) = .ok n →
        lastWritten output axis (rig.serve sources outputs update vs st).acts = some n
  | w :: rest, hr, hnd, hmem, hsep, st, hn => by
      obtain ⟨hw, hnd⟩ := List.nodup_cons.mp hnd
      have hsep' := fun w hw => hsep w (List.mem_cons_of_mem _ hw)
      rw [serve]
      rcases List.mem_cons.mp hmem with rfl | hmem
      · -- no later axis writes where `v` does
        have hlater : ∀ w ∈ rest, ¬ WritesTo outputs w output axis :=
          fun w hr ht => hw (hsep' w hr ht ▸ hr)
        obtain ⟨acts, st', hs, hl, -⟩ :=
          serveAxis_of_steady update hr List.mem_cons_self hn ho
        rw [hs]
        simp only [lastWritten_append, rig.lastWritten_serve_of_not sources update hlater, hl,
          Option.none_or]
      · have ih := lastWritten_serve (n := n) ho (hr.mono (List.subset_cons_self w rest)) hnd hmem
          hsep'
        rcases hs : rig.serveAxis sources outputs update st w with ⟨acts, e | st'⟩
        · simp only [lastWritten_append, ih st hn, Option.some_or]
        · have hst := values_serveAxis update hr List.mem_cons_self hs
          simp only [lastWritten_append, ih st' (hst ▸ hn), Option.some_or]

end Rig

/-! ### A queue of updates -/

/-- A running engine on a rig, and its updates. -/
structure Flow (S K σ : Type) where
  run : Engine.Run S K (Rig.World S K σ)
  /-- The updates to be served, the next one first. -/
  queue : List Update
  /-- The updates served so far. -/
  handled : List Update

namespace Flow

open Rig
open Engine.Step

variable {S K σ : Type}

/-- The values that the physical axes have now. -/
def current (values : σ → AxisKey → Int) (flow : Flow S K σ) : AxisKey → Int :=
  values flow.run.world.state

/-- What may happen next. -/
inductive Step (rig : Rig S K σ) (values : σ → AxisKey → Int) : Flow S K σ → Flow S K σ → Prop
  /-- The axis `k` takes the value `n`, and its update is queued. -/
  | change {flow : Flow S K σ} {k : AxisKey} {n : Int} {st : σ}
      (h : values st = fun j => if j = k then n else flow.current values j) :
      Step rig values flow
        { flow with run.world.state := st, queue := flow.queue ++ [⟨k, n⟩] }
  /-- The engine serves the update at the head of the queue. -/
  | serve {flow : Flow S K σ} {u : Update} {rest : List Update} (h : flow.queue = u :: rest) :
      Step rig values flow
        { run := ((Engine.handle rig.access u).outcome flow.run).2, queue := rest,
          handled := flow.handled ++ [u] }

/-- Any number of changes and services, in any order. -/
inductive Steps (rig : Rig S K σ) (values : σ → AxisKey → Int) : Flow S K σ → Flow S K σ → Prop
  | refl (flow : Flow S K σ) : Steps rig values flow flow
  | more {flow flow₁ flow' : Flow S K σ} (t : Steps rig values flow flow₁)
      (h : Step rig values flow₁ flow') : Steps rig values flow flow'

/-! ### The last update of an axis -/

/-- The value of the last update for `k` in the queue. -/
def pending (queue : List Update) (k : AxisKey) : Option Int :=
  (queue.reverse.find? fun u => u.key = k).map Update.value

theorem pending_concat (queue : List Update) (k : AxisKey) (n : Int) (j : AxisKey) :
    pending (queue ++ [⟨k, n⟩]) j = if k = j then some n else pending queue j := by
  simp only [pending, List.reverse_append, List.reverse_singleton, List.singleton_append,
    List.find?_cons]
  by_cases e : k = j <;> simp [e]

theorem pending_cons (u : Update) (queue : List Update) (j : AxisKey) :
    pending (u :: queue) j =
      (pending queue j).or (if u.key = j then some u.value else none) := by
  simp only [pending, List.reverse_cons, List.find?_append, Option.map_or]
  by_cases e : u.key = j <;> simp [e]

theorem pending_eq_none {queue : List Update} {j : AxisKey} (h : ∀ u ∈ queue, u.key ≠ j) :
    pending queue j = none := by
  rw [pending, Option.map_eq_none_iff, List.find?_eq_none]
  exact fun u hu => by simpa using h u (List.mem_reverse.mp hu)

/-! ### What holds throughout -/

variable [DecidableEq K] {view : SourceView S} {sources : OrderedMap String S}
  {virtual : OrderedMap String Output} {graph : Graph S} {outputs : OrderedMap String K}
  {arena : List K} {rig : Rig S K σ} {values : σ → AxisKey → Int}

/-- Some dependency of `v` has been served, and none is to be served. -/
def Served (flow : Flow S K σ) (v : VirtAxis) : Prop :=
  (∃ u ∈ flow.handled, u.key ∈ v.dependencies) ∧ ∀ u ∈ flow.queue, u.key ∉ v.dependencies

/-- Where `v` is written, none of the other virtual axes `vs` is. -/
def Owns (outputs : OrderedMap String K) (vs : List VirtAxis) (v : VirtAxis) : Prop :=
  ∀ w ∈ vs, ∀ output axis, WritesTo outputs v output axis → WritesTo outputs w output axis → w = v

omit [DecidableEq K] in
/-- Every virtual axis has its place for itself where an output knows the name under which it is
listed, so that no output is listed twice. -/
theorem owns_of_named (name : K → String)
    (h : ∀ {key output}, outputs.find? key = some output → name output = key) {v : VirtAxis}
    (hv : v ∈ Graph.axesOfAll virtual) : Owns outputs (Graph.axesOfAll virtual) v := by
  intro w hw output axis hvt hwt
  have hdevice : w.key.device = v.key.device := (h hwt.1).symm.trans (h hvt.1)
  have haxis : w.key.axis = v.key.axis := hwt.2.trans hvt.2.symm
  exact Graph.eq_of_key_eq hw hv (by rw [AxisKey.mk.injEq]; exact ⟨hdevice, haxis⟩)

/-- So it is in a session, whose virtual devices carry their names. -/
theorem owns_outputs (devices : List VirtualDevice) {v : VirtAxis}
    (hv : v ∈ Graph.axesOfAll virtual) :
    Owns (Session.outputs devices) (Graph.axesOfAll virtual) v := by
  refine owns_of_named VirtualDevice.name (fun h => ?_) hv
  obtain ⟨_, -, he⟩ := List.mem_map.mp (OrderedMap.mem_of_find?_ofList h)
  cases he
  rfl

/-- The invariant of a flow. -/
structure Consistent (graph : Graph S) (arena : List K) (outputs : OrderedMap String K)
    (values : σ → AxisKey → Int) (flow : Flow S K σ) : Prop where
  engine : ∃ stats, flow.run.engine = ⟨graph, arena, false, stats⟩
  latest : ∀ k n, pending flow.queue k = some n → flow.current values k = n
  settled : ∀ v ∈ graph.virtAxes, Owns outputs graph.virtAxes v → flow.Served v →
    ∀ n, v.expr.evaluate (fun k => some (flow.current values k)) = .ok n →
      ∀ output axis, WritesTo outputs v output axis →
        lastWritten output axis flow.run.world.acts = some n

/-- A change that does not concern `v` leaves its value alone; one that does is in the queue. -/
theorem consistent_change {flow : Flow S K σ} (hc : Consistent graph arena outputs values flow)
    {k : AxisKey} {n : Int} {st : σ}
    (h : values st = fun j => if j = k then n else flow.current values j) :
    Consistent graph arena outputs values
      { flow with run.world.state := st, queue := flow.queue ++ [⟨k, n⟩] } where
  engine := hc.engine
  latest j m hj := by
      rw [pending_concat] at hj
      simp only [current, h]
      by_cases e : k = j
      · rw [if_pos e] at hj
        rw [if_pos e.symm]
        exact Option.some.inj hj
      · rw [if_neg e] at hj
        rw [if_neg (Ne.symm e)]
        exact hc.latest j m hj
  settled v hv hown hs m hm := by
      -- with its update in the queue, `k` is no dependency of `v`
      obtain ⟨hhandled, hqueue⟩ := hs
      have hk : k ∉ v.dependencies :=
        hqueue ⟨k, n⟩ (List.mem_append_right _ (List.mem_singleton.mpr rfl))
      have hs' : flow.Served v :=
        ⟨hhandled, fun u hu => hqueue u (List.mem_append_left _ hu)⟩
      refine hc.settled v hv hown hs' m ?_
      rw [← hm]
      refine Expr.evaluate_congr fun j hj => ?_
      have e : j ≠ k := fun e => hk (e ▸ hj)
      simp only [current, h, if_neg e]

/-- Serving an update of a dependency writes the value that is current once no other update of a
dependency is queued; serving another update does not write on the axis. -/
theorem consistent_serve (hg : (Graph.build view sources virtual).1 = .ok graph)
    (ha : Engine.arenaOf graph outputs = .ok arena)
    (hr : rig.Steady sources outputs graph.virtAxes values) {flow : Flow S K σ}
    (hc : Consistent graph arena outputs values flow) {u : Update} {rest : List Update}
    (hq : flow.queue = u :: rest) :
    Consistent graph arena outputs values
      { run := ((Engine.handle rig.access u).outcome flow.run).2, queue := rest,
        handled := flow.handled ++ [u] } := by
  obtain ⟨⟨engine, world, log⟩, queue, handled⟩ := flow
  obtain ⟨stats, rfl⟩ : ∃ stats, engine = ⟨graph, arena, false, stats⟩ := hc.engine
  obtain rfl : queue = u :: rest := hq
  obtain ⟨log', hrun⟩ := rig.outcome_handle u hg ha stats world log
  obtain ⟨-, -, haxes, -⟩ := Graph.of_build hg
  have hdependents : Graph.dependents virtual u.key ⊆ graph.virtAxes :=
    fun w hw => haxes ▸ (Graph.mem_dependents.mp hw).1
  have hsteady := hr.mono hdependents
  have hvalues : values (rig.serve sources outputs u (Graph.dependents virtual u.key)
      world.state).state = values world.state := values_serve u hsteady _
  simp only [hrun]
  refine ⟨⟨_, rfl⟩, fun k n h => ?_, fun v hv hown hs n hn output axis ho => ?_⟩
  · simp only [current, hvalues]
    exact hc.latest k n (by rw [pending_cons, h]; rfl)
  · simp only [current, hvalues] at hn
    have hother : ∀ w ∈ Graph.dependents virtual u.key, WritesTo outputs w output axis → w = v :=
      fun w hw hwt => hown w (hdependents hw) output axis ho hwt
    rw [lastWritten_append]
    by_cases hd : u.key ∈ v.dependencies
    · -- this is the last update of its axis, so its value is current
      have hu : values world.state u.key = u.value := by
        refine hc.latest u.key u.value ?_
        rw [pending_cons, pending_eq_none fun w hw e => hs.2 w hw (e ▸ hd), if_pos rfl]
        rfl
      have hmixed : mixed u (values world.state) = fun k => some (values world.state k) := by
        funext k
        by_cases e : k = u.key
        · rw [mixed, if_pos e, e, hu]
        · rw [mixed, if_neg e]
      have hmem : v ∈ Graph.dependents virtual u.key :=
        Graph.mem_dependents.mpr ⟨haxes ▸ hv, hd⟩
      rw [lastWritten_serve u ho hsteady (Graph.nodup_dependents virtual u.key) hmem hother
        world.state (hmixed ▸ hn), Option.some_or]
    · -- `v` was served before, and nothing is written for it now
      have hserved : (Flow.mk ⟨⟨graph, arena, false, stats⟩, world, log⟩ (u :: rest)
          handled).Served v := by
        obtain ⟨⟨w, hw, hwd⟩, hrest⟩ := hs
        refine ⟨⟨w, ?_, hwd⟩, List.forall_mem_cons.mpr ⟨hd, hrest⟩⟩
        rcases List.mem_append.mp hw with hw | hw
        · exact hw
        · exact absurd (List.mem_singleton.mp hw ▸ hwd) hd
      have hnone : ∀ w ∈ Graph.dependents virtual u.key, ¬ WritesTo outputs w output axis := by
        intro w hw hwt
        rw [hother w hw hwt] at hw
        exact hd (Graph.mem_dependents.mp hw).2
      rw [rig.lastWritten_serve_of_not sources u hnone, Option.none_or]
      exact hc.settled v hv hown hserved n hn output axis ho

/-- **What holds throughout.**  Changes and services keep a flow consistent. -/
theorem consistent_steps (hg : (Graph.build view sources virtual).1 = .ok graph)
    (ha : Engine.arenaOf graph outputs = .ok arena)
    (hr : rig.Steady sources outputs graph.virtAxes values) {start flow : Flow S K σ}
    (hc : Consistent graph arena outputs values start) (h : Steps rig values start flow) :
    Consistent graph arena outputs values flow := by
  induction h with
  | refl => exact hc
  | more _ h ih =>
      cases h with
      | change h => exact consistent_change ih h
      | serve h => exact consistent_serve hg ha hr ih h

/-- An engine at the start, with nothing in the queue. -/
def start (graph : Graph S) (arena : List K) (stats : Stats) (world : World S K σ) (log : Log) :
    Flow S K σ :=
  ⟨⟨⟨graph, arena, false, stats⟩, world, log⟩, [], []⟩

/-- **The outputs settle.**  What the engine reads and writes succeeds, and writing changes no
value.  However changes and services come one after another from the start: when some dependency of
a virtual axis has been served and none is in the queue, the output was last written the value that
the expression has now.  The virtual axis has its place for itself, as it has wherever outputs
carry their names (`owns_of_named`); otherwise it may be another one that was written there
last. -/
theorem settled_output (hg : (Graph.build view sources virtual).1 = .ok graph)
    (ha : Engine.arenaOf graph outputs = .ok arena)
    (hr : rig.Steady sources outputs graph.virtAxes values)
    {stats : Stats} {world : World S K σ} {log : Log} {flow : Flow S K σ}
    (h : Steps rig values (start graph arena stats world log) flow) {v : VirtAxis}
    (hv : v ∈ graph.virtAxes) (hown : Owns outputs graph.virtAxes v) (hs : flow.Served v) {n : Int}
    (hn : v.expr.evaluate (fun k => some (flow.current values k)) = .ok n) :
    ∃ output, outputs.find? v.key.device = some output ∧
      lastWritten output v.key.axis flow.run.world.acts = some n := by
  have hstart : Consistent graph arena outputs values (start graph arena stats world log) :=
    { engine := ⟨stats, rfl⟩
      latest := fun k n h => by cases h
      settled := fun v hv hown hs => by
        obtain ⟨⟨u, hu, -⟩, -⟩ := hs
        cases hu }
  have hc := consistent_steps hg ha hr hstart h
  obtain ⟨-, -, haxes, -⟩ := Graph.of_build hg
  obtain ⟨output, ho, -⟩ := Engine.outputAt_arenaOf hg ha (haxes ▸ hv)
  exact ⟨output, ho, hc.settled v hv hown hs n hn output v.key.axis ⟨ho, rfl⟩⟩

/-- Devices in memory that have the axis `x` and no other.  Writes change no value. -/
def recorded : Rig String String (AxisKey → Int) where
  read source axis st :=
    if axis = .x then .ok (st ⟨source, axis⟩) else .error (.readFailed ⟨source, axis⟩ "")
  write output axis _ st := if axis = .x then .ok st else .error (.writeFailed ⟨output, axis⟩ "")

/-- The axis `A:X + B:X`. -/
def sum : Rule := ruleOf (.binary .add (.ref ⟨"A", .x⟩) (.ref ⟨"B", .x⟩))

/-- The graph of a virtual device with this axis. -/
def sumGraph : Graph String :=
  let v : VirtAxis := ⟨0, ⟨"out", .x⟩, sum⟩
  { sources := .ofList [("A", "A"), ("B", "B")]
    devices := ["out"]
    virtAxes := [v]
    realAxes := .ofList [(⟨"A", .x⟩, ⟨"A", .x, [v]⟩), (⟨"B", .x⟩, ⟨"B", .x, [v]⟩)] }

/-- `A:X` becomes 1 and `B:X` 5, and the first update is served; then `A:X` becomes 3, and the two
updates in the queue are served. -/
theorem settled_output_sum :
    ∃ flow, Steps recorded id (start sumGraph ["out"] {} ⟨fun _ => 0, []⟩ #[]) flow ∧
      flow.handled.map Update.value = [1, 5, 3] ∧
      lastWritten "out" .x flow.run.world.acts = some 8 := by
  have h₀ : Steps recorded id (start sumGraph ["out"] {} ⟨fun _ => 0, []⟩ #[]) _ := .refl _
  have h₁ := h₀.more (.change (k := ⟨"A", .x⟩) (n := 1) rfl)
  have h₂ := h₁.more (.change (k := ⟨"B", .x⟩) (n := 5) rfl)
  have h₃ := h₂.more (.serve rfl)
  have h₄ := h₃.more (.change (k := ⟨"A", .x⟩) (n := 3) rfl)
  have h₅ := h₄.more (.serve rfl)
  have h₆ := h₅.more (.serve rfl)
  have hg : (Graph.build ⟨id, fun _ _ => true⟩ (.ofList [("A", "A"), ("B", "B")])
      (.ofList [("out", ⟨.ofList [(.x, sum)], "", 0, 0⟩)])).1 = .ok sumGraph := rfl
  have ha : Engine.arenaOf sumGraph (.ofList [("out", "out")]) = .ok ["out"] := rfl
  have hr : recorded.Steady (.ofList [("A", "A"), ("B", "B")]) (.ofList [("out", "out")])
      sumGraph.virtAxes id :=
    { reads := fun v hv k hk st => by
        cases List.mem_singleton.mp hv
        change k ∈ [⟨"A", .x⟩, ⟨"B", .x⟩] at hk
        rcases List.mem_pair.mp hk with rfl | rfl <;> rfl
      writes := fun v hv b n _ st => by
        cases List.mem_singleton.mp hv
        exact ⟨st, rfl, rfl⟩ }
  have hown : Owns (.ofList [("out", "out")]) sumGraph.virtAxes ⟨0, ⟨"out", .x⟩, sum⟩ :=
    fun w hw _ _ _ _ => List.mem_singleton.mp hw
  obtain ⟨output, ho, hl⟩ := settled_output hg ha hr h₆ (v := ⟨0, ⟨"out", .x⟩, sum⟩)
    (List.mem_singleton.mpr rfl) hown ⟨⟨_, List.mem_cons_self, by decide⟩, fun u hu => by cases hu⟩
    (n := 8) (by decide +kernel)
  cases ho
  exact ⟨_, h₆, rfl, hl⟩

end Flow

end AxisMixer
