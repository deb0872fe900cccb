import AxisMixer.Proofs.Engine.Pass
import AxisMixer.Proofs.Engine.Serving
import Mathlib.Algebra.GroupWithZero.Nat

/-!
# Engine — what the statistics say of a run

An engine is handed updates and graphs in any order, and between these requests the devices may come
to be in another state (`Engine.Request`, `Engine.after`).

While an update is handled, each virtual axis downstream is either written or counted as failed
(`account_pass`).  So if every update is handled to its end, `written` and `failed` together are the
fan-outs of the updates, each in the graph that was current when it was handled (`stats_after`).

Those written are counted when the last one is done.  If the update is not handled to its end, the
devices have taken writes that `written` never comes to know of (`writes_after`).
-/

namespace AxisMixer

/-! ### Graphs whose virtual axes have a place -/

namespace Graph

variable {S : Type}

/-- Every virtual axis downstream refers to a place among the virtual devices. -/
def Placed (graph : Graph S) : Prop :=
  ∀ k real, graph.realAxes.find? k = some real → ∀ v ∈ real.downstream,
    0 ≤ v.deviceId ∧ v.deviceId < graph.devices.length

/-- Graphs that are built are placed. -/
theorem placed_of_build {view : SourceView S} {sources : OrderedMap String S}
    {virtual : OrderedMap String Output} {graph : Graph S}
    (h : (build view sources virtual).1 = .ok graph) : graph.Placed := by
  intro k real hreal v hv
  have hmem := (mem_dependents.mp (mem_dependents_of_downstream h hreal hv)).1
  obtain ⟨i, hi, hk⟩ := getElem?_of_mem_axesOfAll hmem
  obtain ⟨-, hd, -, -⟩ := of_build h
  obtain ⟨hlt, -⟩ := List.getElem?_eq_some_iff.mp hk
  rw [hi, hd]
  exact ⟨Int.natCast_nonneg i, Int.ofNat_lt.mpr hlt⟩

end Graph

/-- Devices fail only with errors that concern the one axis. -/
structure DeviceAccess.Confined {S K σ : Type} (access : DeviceAccess S K σ) : Prop where
  reads : ∀ {source axis w w' e}, access.read source axis w = (.error e, w') →
    ∃ p, e = .propagation p
  writes : ∀ {output axis n w w' e}, access.write output axis n w = (.error e, w') →
    ∃ p, e = .propagation p

theorem Rig.confined_access {S K σ : Type} (rig : Rig S K σ) : rig.access.Confined where
  reads {source axis w w' e} h := by
    simp only [access, Prod.mk.injEq] at h
    obtain ⟨h, -⟩ := h
    cases hr : rig.read source axis w.state with
    | error p =>
        rw [hr] at h
        cases h
        exact ⟨p, rfl⟩
    | ok n =>
        rw [hr] at h
        cases h
  writes {output axis n w w' e} h := by
    simp only [access] at h
    split at h
    · cases h
    · next p _ =>
        cases h
        exact ⟨p, rfl⟩

namespace Engine

open Step

variable {S K σ : Type}

/-! ### Requests -/

/-- What may happen to a running engine. -/
inductive Request (S K σ : Type) where
  | handle (update : Update)
  | swap (graph : Graph S) (outputs : OrderedMap String K)
  /-- Nothing is asked of the engine, but the devices come to be in another state. -/
  | turn (change : σ → σ)

section Requests

variable (access : DeviceAccess S K σ)

/-- The running engine after a request.  A swap that is rejected leaves everything as it is. -/
def comply (run : Run S K σ) : Request S K σ → Run S K σ
  | .handle update => ((handle access update).outcome run).2
  | .swap graph outputs => ((swap graph outputs).outcome run).2
  | .turn change => { run with world := change run.world }

/-- The running engine after the requests. -/
def after : List (Request S K σ) → Run S K σ → Run S K σ
  | [], run => run
  | request :: rest, run => after rest (comply access run request)

/-- The graph after a request. -/
def graphAfter (graph : Graph S) : Request S K σ → Graph S
  | .swap next outputs => if missingOutputs next outputs = [] then next else graph
  | .handle _ | .turn _ => graph

/-- The update of a request, if it is one, with the graph that is current at that moment. -/
def handledBy (graph : Graph S) : Request S K σ → List (Graph S × Update)
  | .handle update => [(graph, update)]
  | .swap _ _ | .turn _ => []

/-- The updates of the requests, each with the graph that is current when it is handled. -/
def handled (graph : Graph S) : List (Request S K σ) → List (Graph S × Update)
  | [] => []
  | request :: rest => handledBy graph request ++ handled (graphAfter graph request) rest

/-- Whether the graph knows the axis of the update. -/
def isKnown (h : Graph S × Update) : Bool := h.1.realAxes.contains h.2.key

/-- The number of virtual axes downstream of the update. -/
def fanOut (h : Graph S × Update) : Nat :=
  ((h.1.realAxes.find? h.2.key).map fun real => real.downstream.length).getD 0

end Requests

/-! ### The account of an update -/

section Account

variable {access : DeviceAccess S K σ} {graph : Graph S} {arena : List K} {failFast : Bool}
  {update : Update} {vs : List VirtAxis} {run last : Run S K σ} {mishaps : List (Mishap σ)}
  {r : Except Failure Nat}

/-- **The account of a pass.**  Of the engine only `failed` changes.  When the pass comes to its
end, each virtual axis is among those written or among those failed. -/
theorem account_pass (h : Pass access graph arena failFast update vs run mishaps r last) :
    ∃ f, last.engine = { run.engine with stats.failed := run.engine.stats.failed + f } ∧
      ∀ n, r = .ok n → n + f = vs.length := by
  induction h with
  | done => exact ⟨0, rfl, fun n hn => by cases hn; rfl⟩
  | @wrote v rest run next last mishaps r h _ ih =>
      obtain ⟨f, hlast, hcount⟩ := ih
      refine ⟨f, by rw [hlast, (ending_recompute h).1], fun n hn => ?_⟩
      cases r with
      | error e => cases hn
      | ok m =>
          cases hn
          rw [List.length_cons, ← hcount m rfl, Nat.add_right_comm]
  | @skipped v rest run next last mishaps r e h _ _ ih =>
      obtain ⟨f, hlast, hcount⟩ := ih
      refine ⟨f + 1, ?_, fun n hn => ?_⟩
      · rw [hlast, skipped, failed, (ending_recompute h).1]
        simp only [Nat.add_assoc, Nat.add_comm 1]
      · rw [List.length_cons, ← hcount n hn, Nat.add_assoc]
  | stopped h _ =>
      exact ⟨1, by rw [failed, (ending_recompute h).1], fun n hn => by cases hn⟩
  | broken h _ => exact ⟨0, (ending_recompute h).1, fun n hn => by cases hn⟩

/-- With an output for the axis, only errors that concern it can come up. -/
theorem Ending.propagation (hc : access.Confined) {v : VirtAxis} {w₀ w : σ} {e : Failure}
    (ho : outputAt arena v.deviceId ≠ none)
    (h : Ending access graph arena v w₀ (.error e) w) : ∃ p, e = .propagation p := by
  cases h with
  | unread _ _ hf =>
      cases hf with
      | undefined => exact ⟨_, rfl⟩
      | device _ h => exact hc.reads h
  | valueless => exact ⟨_, rfl⟩
  | outputless _ h => exact absurd h ho
  | written _ _ h => exact hc.writes h

/-- An engine that isolates errors serves all virtual axes. -/
theorem pass_isolating (hc : access.Confined)
    (h : Pass access graph arena failFast update vs run mishaps r last)
    (ho : ∀ v ∈ vs, outputAt arena v.deviceId ≠ none) (isolating : failFast = false) :
    ∃ n, r = .ok n := by
  induction h with
  | done => exact ⟨0, rfl⟩
  | wrote _ _ ih =>
      obtain ⟨n, rfl⟩ := ih fun v hv => ho v (List.mem_cons_of_mem _ hv)
      exact ⟨n + 1, rfl⟩
  | skipped _ _ _ ih => exact ih fun v hv => ho v (List.mem_cons_of_mem _ hv)
  | stopped _ fast => cases isolating.symm.trans fast
  | broken h other =>
      obtain ⟨p, rfl⟩ := (ending_recompute h).2.propagation hc (ho _ List.mem_cons_self)
      exact absurd rfl (other p)

/-- The engine isolates errors and has an output for every place in its graph. -/
structure Ready (engine : Engine S K) : Prop where
  isolating : engine.failFast = false
  placed : engine.graph.Placed
  full : engine.arena.length = engine.graph.devices.length

theorem Ready.output {engine : Engine S K} (hr : Ready engine) {k : AxisKey} {real : RealAxis S}
    (hf : engine.graph.realAxes.find? k = some real) :
    ∀ v ∈ real.downstream, outputAt engine.arena v.deviceId ≠ none := by
  intro v hv
  obtain ⟨hpos, hlt⟩ := hr.placed k real hf v hv
  have hlt' : v.deviceId.toNat < engine.arena.length := by
    rw [hr.full]
    omega
  rw [outputAt, if_pos hpos, List.getElem?_eq_getElem hlt']
  exact Option.some_ne_none _

/-- **The account of an update.** -/
theorem account_handle (hc : access.Confined) (hr : Ready run.engine)
    (h : (handle access update).outcome run = (r, last)) :
    ∃ n f, r = .ok n ∧ n + f = fanOut (run.engine.graph, update) ∧
      last.engine = { run.engine with stats := {
        received := run.engine.stats.received + 1
        ignored := run.engine.stats.ignored + if isKnown (run.engine.graph, update) then 0 else 1
        written := run.engine.stats.written + n
        failed := run.engine.stats.failed + f } } := by
  rcases handle_cases h with ⟨hf, rfl, -, hlast⟩ | ⟨real, mishaps, last', hf, hpass, rfl⟩
  · refine ⟨0, 0, rfl, ?_, ?_⟩
    · simp [fanOut, hf]
    · simp [hlast, isKnown, OrderedMap.contains, hf]
  · obtain ⟨n, rfl⟩ := pass_isolating hc hpass (hr.output hf) hr.isolating
    obtain ⟨f, hlast, hcount⟩ := account_pass hpass
    refine ⟨n, f, rfl, ?_, ?_⟩
    · simp [fanOut, hf, hcount n rfl]
    · simp [credited, reported, received, hlast, isKnown, OrderedMap.contains, hf]

end Account

/-! ### The account of a run -/

section Run

theorem ready_of_arenaOf {graph : Graph S} {outputs : OrderedMap String K} {arena : List K}
    (h : arenaOf graph outputs = .ok arena) (hp : graph.Placed) (stats : Stats) :
    Ready ⟨graph, arena, false, stats⟩ := by
  obtain ⟨rfl, hall⟩ := isSome_find?_of_arenaOf h
  exact ⟨rfl, hp, List.filterMap_length_eq_length.mpr hall⟩

/-- What comes of a swap: the graph and its outputs are brought in together, or the engine stays as
it is. -/
theorem swap_cases (run : Run S K σ) (graph : Graph S) (outputs : OrderedMap String K) :
    (∃ arena, missingOutputs graph outputs = [] ∧ arenaOf graph outputs = .ok arena ∧
      (swap graph outputs).outcome run =
        (.ok (), { run with
          engine := { run.engine with graph, arena }
          log := run.log.push (swapEntry graph) })) ∨
    missingOutputs graph outputs ≠ [] ∧
      (swap graph outputs).outcome run =
        (.error (.configuration (.missingOutputs (missingOutputs graph outputs))), run) := by
  rw [swap, outcome_once, swap?, arenaOf]
  cases h : missingOutputs graph outputs with
  | nil => exact .inl ⟨_, rfl, rfl, rfl⟩
  | cons name names => exact .inr ⟨List.cons_ne_nil _ _, rfl⟩

variable {access : DeviceAccess S K σ}

/-- The statistics `after` differ from those `before` by what handling the updates amounts to. -/
structure Accounts (updates : List (Graph S × Update)) (before after : Stats) : Prop where
  received : after.received = before.received + updates.length
  ignored : after.ignored = before.ignored + (updates.filter fun h => !isKnown h).length
  served : after.written + after.failed =
    before.written + before.failed + ((updates.filter isKnown).map fanOut).sum

theorem Accounts.refl (stats : Stats) : Accounts (S := S) [] stats stats := ⟨rfl, rfl, rfl⟩

theorem Accounts.trans {updates updates' : List (Graph S × Update)} {s s' s'' : Stats}
    (h : Accounts updates s s') (h' : Accounts updates' s' s'') :
    Accounts (updates ++ updates') s s'' where
  received := by
    rw [h'.received, h.received, List.length_append, Nat.add_assoc]
  ignored := by
    rw [h'.ignored, h.ignored, List.filter_append, List.length_append, Nat.add_assoc]
  served := by
    rw [h'.served, h.served, List.filter_append, List.map_append, List.sum_append, Nat.add_assoc]

theorem fanOut_of_not_isKnown {h : Graph S × Update} (hk : isKnown h = false) : fanOut h = 0 := by
  rw [isKnown, OrderedMap.contains, Option.isSome_eq_false_iff, Option.isNone_iff_eq_none] at hk
  rw [fanOut, hk]
  rfl

/-- **One request.**  It keeps the engine ready, brings in its graph, and is accounted for. -/
theorem account_comply (hc : access.Confined) {run : Run S K σ} (hr : Ready run.engine)
    (request : Request S K σ)
    (hp : ∀ graph outputs, request = .swap graph outputs → graph.Placed) :
    Ready (comply access run request).engine ∧
      (comply access run request).engine.graph = graphAfter run.engine.graph request ∧
      Accounts (handledBy run.engine.graph request) run.engine.stats
        (comply access run request).engine.stats := by
  cases request with
  | handle update =>
      rcases h : (handle access update).outcome run with ⟨r, next⟩
      obtain ⟨n, f, -, hn, hnext⟩ := account_handle hc hr h
      rw [comply, h, hnext]
      refine ⟨⟨hr.isolating, hr.placed, hr.full⟩, rfl, rfl, ?_, ?_⟩
      · cases hk : isKnown (run.engine.graph, update) <;> simp [handledBy, hk]
      · have hsum : (((handledBy run.engine.graph (.handle update : Request S K σ)).filter
            isKnown).map fanOut).sum = n + f := by
          cases hk : isKnown (run.engine.graph, update) with
          | true => simp [handledBy, hk, hn]
          | false => simp [handledBy, hk, hn, fanOut_of_not_isKnown hk]
        rw [hsum]
        exact Nat.add_add_add_comm _ _ _ _
  | swap graph outputs =>
      rcases swap_cases run graph outputs with ⟨arena, hm, ha, hs⟩ | ⟨hm, hs⟩
      · have hready := ready_of_arenaOf ha (hp graph outputs rfl) run.engine.stats
        rw [comply, hs, graphAfter, if_pos hm]
        exact ⟨⟨hr.isolating, hready.placed, hready.full⟩, rfl, .refl _⟩
      · rw [comply, hs, graphAfter, if_neg hm]
        exact ⟨hr, rfl, .refl _⟩
  | turn change => exact ⟨hr, rfl, .refl _⟩

/-- **The account of a run.** -/
theorem account_after (hc : access.Confined) :
    ∀ (requests : List (Request S K σ)) {run : Run S K σ}, Ready run.engine →
      (∀ graph outputs, .swap graph outputs ∈ requests → graph.Placed) →
      Ready (after access requests run).engine ∧
        Accounts (handled run.engine.graph requests) run.engine.stats
          (after access requests run).engine.stats
  | [], run, hr, _ => ⟨hr, .refl _⟩
  | request :: rest, run, hr, hp => by
      obtain ⟨hnext, hgraph, hstep⟩ := account_comply hc hr request
        fun graph outputs e => hp graph outputs (e ▸ List.mem_cons_self)
      obtain ⟨hlast, hrest⟩ := account_after hc rest hnext
        fun graph outputs h => hp graph outputs (List.mem_cons_of_mem _ h)
      rw [hgraph] at hrest
      exact ⟨hlast, hstep.trans hrest⟩

/-- **The statistics account for every virtual axis.**  An engine that isolates errors has been
created and then been handed updates and graphs in any order.  It has received all updates and
ignored those whose axis the graph of the moment did not know; and each virtual axis downstream of
the others was written or failed.  An update adds to those written what it returns, and a graph that
is swapped in or rejected changes nothing in the statistics. -/
theorem stats_after (hc : access.Confined) {graph : Graph S} {outputs : OrderedMap String K}
    {engine : Engine S K} (he : create graph outputs false = .ok engine) (hp : graph.Placed)
    {requests : List (Request S K σ)}
    (hs : ∀ graph outputs, .swap graph outputs ∈ requests → graph.Placed) (world : σ) (log : Log) :
    let last := after access requests ⟨engine, world, log⟩
    let updates := handled graph requests
    let stats := last.engine.stats
    stats.received = updates.length ∧
      stats.ignored = (updates.filter fun h => !isKnown h).length ∧
      stats.written + stats.failed = ((updates.filter isKnown).map fanOut).sum ∧
      (∀ update, ∃ n next, (handle access update).outcome last = (.ok n, next) ∧
        next.engine.stats.written = stats.written + n) ∧
      ∀ graph outputs, (comply access last (.swap graph outputs)).engine.stats = stats := by
  intro last updates stats
  rw [create] at he
  rcases ha : arenaOf graph outputs with names | arena
  · rw [ha] at he
    cases he
  · rw [ha] at he
    cases he
    have hready : Ready (⟨⟨graph, arena, false, {}⟩, world, log⟩ : Run S K σ).engine :=
      ready_of_arenaOf ha hp {}
    obtain ⟨hlast, haccount⟩ := account_after hc requests hready hs
    refine ⟨?_, ?_, ?_, fun update => ?_, fun graph outputs => ?_⟩
    · exact haccount.received.trans (Nat.zero_add _)
    · exact haccount.ignored.trans (Nat.zero_add _)
    · exact haccount.served.trans (Nat.zero_add _)
    · rcases h : (handle access update).outcome last with ⟨r, next⟩
      obtain ⟨n, f, rfl, -, hnext⟩ := account_handle hc hlast h
      exact ⟨n, next, rfl, by rw [hnext]⟩
    · rcases swap_cases last graph outputs with ⟨_, -, -, hs⟩ | ⟨-, hs⟩ <;>
        rw [comply, hs]

/-- A virtual device with the axis `B:Y`. -/
def plain : Output where
  axes := .ofList [(.x, Rig.ruleOf (.ref ⟨"B", .y⟩))]
  name := ""
  vendor := 0
  product := 0

/-- Updates of the axis `A:X` before and behind a graph that has no outputs, and others behind one
that has them; one is of a device that no expression mentions. -/
def visits (next : Graph String) : List (Request String String (Rig.World String String σ)) :=
  [.handle ⟨⟨"A", .x⟩, 7⟩, .handle ⟨⟨"C", .x⟩, 1⟩, .swap next .empty, .handle ⟨⟨"A", .x⟩, 8⟩,
    .swap next (.ofList [("out", "out")]), .handle ⟨⟨"A", .x⟩, 9⟩, .handle ⟨⟨"B", .y⟩, 2⟩]

/-- The graph without outputs is rejected, and four virtual axes are downstream of `A:X` still; when
the other one is swapped in, none is, and one is downstream of `B:Y`. -/
theorem stats_after_swapped :
    ∃ graph next engine,
      (Graph.build ⟨id, fun _ _ => true⟩ (.ofList [("A", "A"), ("B", "B")])
        (.ofList [("out", Rig.quotients)])).1 = .ok graph ∧
      (Graph.build ⟨id, fun _ _ => true⟩ (.ofList [("A", "A"), ("B", "B")])
        (.ofList [("out", plain)])).1 = .ok next ∧
      create graph (.ofList [("out", "out")]) false = .ok engine ∧
      let stats := (after Rig.looped.access (visits next)
        ⟨engine, ⟨fun _ => 0, []⟩, #[]⟩).engine.stats
      stats.received = 5 ∧ stats.ignored = 2 ∧ stats.written + stats.failed = 9 := by
  obtain ⟨graph, hg⟩ : ∃ graph, (Graph.build ⟨id, fun _ _ => true⟩
      (.ofList [("A", "A"), ("B", "B")]) (.ofList [("out", Rig.quotients)])).1 = .ok graph :=
    ⟨_, rfl⟩
  obtain ⟨next, hn⟩ : ∃ next, (Graph.build ⟨id, fun _ _ => true⟩
      (.ofList [("A", "A"), ("B", "B")]) (.ofList [("out", plain)])).1 = .ok next :=
    ⟨_, rfl⟩
  have hswaps : ∀ (graph' : Graph String) (outputs : OrderedMap String String),
      .swap graph' outputs ∈ visits (σ := AxisKey → Int) next → graph'.Placed := by
    intro graph' outputs h
    have hnext : graph' = next := by
      simp only [visits, List.mem_cons, reduceCtorEq, Request.swap.injEq, false_or,
        List.not_mem_nil, or_false] at h
      rcases h with ⟨rfl, -⟩ | ⟨rfl, -⟩ <;> rfl
    rw [hnext]
    exact Graph.placed_of_build hn
  obtain ⟨engine, he⟩ : ∃ engine, create graph (.ofList [("out", "out")]) false = .ok engine := by
    cases hg
    exact ⟨_, rfl⟩
  obtain ⟨hreceived, hignored, hserved, -, -⟩ :=
    stats_after Rig.looped.confined_access he (Graph.placed_of_build hg) hswaps ⟨fun _ => 0, []⟩ #[]
  cases hg
  cases hn
  cases he
  exact ⟨_, _, _, rfl, rfl, rfl, hreceived.trans (by decide +kernel),
    hignored.trans (by decide +kernel), hserved.trans (by decide +kernel)⟩

end Run

/-! ### Writes that are not counted -/

section Metered

/-- A state of the devices with the number of writes that succeeded. -/
structure Metered (σ : Type) where
  state : σ
  writes : Nat

/-- The devices, with a count of the writes that succeed. -/
def metered (access : DeviceAccess S K σ) : DeviceAccess S K (Metered σ) where
  read source axis w :=
    ((access.read source axis w.state).1, { w with state := (access.read source axis w.state).2 })
  write output axis value w :=
    match access.write output axis value w.state with
    | (.ok (), state) => (.ok (), ⟨state, w.writes + 1⟩)
    | (.error e, state) => (.error e, { w with state })

/-- The request to devices whose writes are counted. -/
def Request.metered : Request S K σ → Request S K (Metered σ)
  | .handle update => .handle update
  | .swap graph outputs => .swap graph outputs
  | .turn change => .turn fun w => { w with state := change w.state }

/-- Whether the request is an update that is not handled to its end. -/
def breaks (access : DeviceAccess S K σ) (run : Run S K σ) : Request S K σ → Bool
  | .handle update => !((handle access update).outcome run).1.isOk
  | .swap _ _ | .turn _ => false

/-- The writes made for updates that were not handled to their end. -/
def lost (access : DeviceAccess S K σ) : List (Request S K σ) → Run S K (Metered σ) → Nat
  | [], _ => 0
  | request :: rest, run =>
    let next := comply (metered access) run request.metered
    (if breaks (metered access) run request.metered then next.world.writes - run.world.writes
      else 0) + lost access rest next

variable {access : DeviceAccess S K σ} {graph : Graph S} {arena : List K} {update : Update}

theorem writes_reads {w w' : Metered σ} (h : Reads (metered access) w w') :
    w'.writes = w.writes := by
  induction h with
  | refl => rfl
  | more h _ ih => rw [ih, ← h, metered]

/-- A virtual axis that is recomputed takes one write, and any other takes none. -/
theorem Ending.writes {v : VirtAxis} {w₀ w : Metered σ} {r : Except Failure Unit}
    (h : Ending (metered access) graph arena v w₀ r w) :
    w.writes = w₀.writes + if r.isOk then 1 else 0 := by
  cases h with
  | unread _ hreads => exact writes_reads hreads
  | valueless _ hreads => exact writes_reads hreads
  | outputless hreads => exact writes_reads hreads
  | written hreads _ h =>
      rw [← writes_reads hreads]
      simp only [metered] at h
      split at h <;> cases h <;> rfl

/-- A pass that comes to its end reports the writes made. -/
theorem writes_pass {failFast : Bool} {vs : List VirtAxis} {run last : Run S K (Metered σ)}
    {mishaps : List (Mishap (Metered σ))} {r : Except Failure Nat}
    (h : Pass (metered access) graph arena failFast update vs run mishaps r last) :
    ∃ made, last.world.writes = run.world.writes + made ∧ ∀ n, r = .ok n → n = made := by
  induction h with
  | done => exact ⟨0, rfl, fun n hn => by cases hn; rfl⟩
  | @wrote v rest run next last mishaps r h _ ih =>
      obtain ⟨made, hlast, hn⟩ := ih
      have hnext : next.world.writes = run.world.writes + 1 := (ending_recompute h).2.writes
      refine ⟨made + 1, by rw [hlast, hnext, Nat.add_right_comm, Nat.add_assoc], fun n hr => ?_⟩
      cases r with
      | error e => cases hr
      | ok m =>
          cases hr
          rw [hn m rfl]
  | skipped h _ _ ih =>
      obtain ⟨made, hlast, hn⟩ := ih
      exact ⟨made, hlast.trans (congrArg (· + made) (ending_recompute h).2.writes), hn⟩
  | stopped h _ => exact ⟨0, (ending_recompute h).2.writes, fun n hn => by cases hn⟩
  | broken h _ => exact ⟨0, (ending_recompute h).2.writes, fun n hn => by cases hn⟩

variable (access) in
/-- **One request.**  Whatever comes of it, the writes made are those counted and those lost. -/
theorem writes_comply (run : Run S K (Metered σ)) (request : Request S K σ) :
    let next := comply (metered access) run request.metered
    next.world.writes + run.engine.stats.written =
      run.world.writes + next.engine.stats.written +
        if breaks (metered access) run request.metered then next.world.writes - run.world.writes
        else 0 := by
  cases request with
  | handle update =>
      rcases h : (handle (metered access) update).outcome run with ⟨r, next⟩
      simp only [Request.metered, comply, breaks, h]
      rcases handle_cases h with ⟨-, rfl, hworld, hengine⟩ | ⟨real, mishaps, last, -, hpass, rfl⟩
      · rw [hworld, hengine]
        rfl
      · obtain ⟨made, hmade, hn⟩ := writes_pass hpass
        obtain ⟨f, hlast, -⟩ := account_pass hpass
        have hworld : (credited (reported r) last).world.writes = run.world.writes + made := hmade
        have hwritten : (credited (reported r) last).engine.stats.written =
            run.engine.stats.written + reported r := by
          rw [credited, hlast]
          rfl
        rw [hworld, hwritten]
        cases r with
        | error e => simp [reported, Except.isOk, Except.toBool]; omega
        | ok n => simp [reported, Except.isOk, Except.toBool, hn n rfl]; omega
  | swap graph outputs =>
      rcases swap_cases run graph outputs with ⟨_, -, -, hs⟩ | ⟨-, hs⟩ <;>
        simp only [Request.metered, comply, breaks, hs] <;> rfl
  | turn change => rfl

variable (access) in
/-- **The account of the writes.** -/
theorem writes_add_after :
    ∀ (requests : List (Request S K σ)) (run : Run S K (Metered σ)),
      let last := after (metered access) (requests.map Request.metered) run
      last.world.writes + run.engine.stats.written =
        run.world.writes + last.engine.stats.written + lost access requests run
  | [], _ => rfl
  | request :: rest, run => by
      have hstep := writes_comply access run request
      have hrest := writes_add_after rest (comply (metered access) run request.metered)
      simp only [List.map_cons, after, lost] at hstep hrest ⊢
      omega

/-- **The writes that are counted.**  However the devices fail and however the engine takes it, the
writes that have succeeded since the engine was created are those that `written` counts, and those
made for updates that were not handled to their end. -/
theorem writes_after (graph : Graph S) (arena : List K) (failFast : Bool)
    (requests : List (Request S K σ)) (state : σ) (log : Log) :
    let start : Run S K (Metered σ) := ⟨⟨graph, arena, failFast, {}⟩, ⟨state, 0⟩, log⟩
    let last := after (metered access) (requests.map Request.metered) start
    last.world.writes = last.engine.stats.written + lost access requests start := by
  have h := writes_add_after access requests ⟨⟨graph, arena, failFast, {}⟩, ⟨state, 0⟩, log⟩
  simpa using h

/-- A virtual device with the axes `A:X` and `1 / A:X`. -/
def inverse : Output where
  axes := .ofList [(.x, Rig.ruleOf (.ref ⟨"A", .x⟩)),
    (.y, Rig.ruleOf (.binary .div (.lit 1) (.ref ⟨"A", .x⟩)))]
  name := ""
  vendor := 0
  product := 0

/-- An engine that fails fast has written the first axis when the second one divides by zero. -/
theorem writes_after_division :
    ∃ graph engine,
      (Graph.build ⟨id, fun _ _ => true⟩ (.ofList [("A", "A")])
        (.ofList [("out", inverse)])).1 = .ok graph ∧
      create graph (.ofList [("out", "out")]) true = .ok engine ∧
      let last := after (metered Rig.looped.access) [.handle ⟨⟨"A", .x⟩, 0⟩]
        ⟨engine, ⟨⟨fun _ => 0, []⟩, 0⟩, #[]⟩
      last.world.writes = 1 ∧ last.engine.stats.written = 0 :=
  ⟨_, _, rfl, rfl, by decide +kernel, by decide +kernel⟩

end Metered

end Engine

end AxisMixer
