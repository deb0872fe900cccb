import AxisMixer.Proofs.Engine.Outcome
import AxisMixer.Proofs.Engine.Rig
import AxisMixer.Proofs.Graph.Connections

/-!
# Engine — an update is served as `Rig.serve` says

The engine finds the virtual axes of an update through its graph and their outputs through places
in its arena, and what it reads and evaluates goes through lists of bindings.  None of this shows
in what it does: on a rig of devices, handling an update comes to `Rig.serve`, with the virtual
axes picked by their dependencies and the outputs by their names.

The lemmas follow the functions of the engine, from the innermost to `handle`.

* `Engine.outputAt_arenaOf`: the places in the arena.
* `Rig.outcome_gather`: the dependencies, read in their order.
* `Rig.outcome_recompute`, `Rig.outcome_recomputeAll`: one virtual axis, and all of them.
* `Rig.handle_serves`: a whole update.
-/

namespace AxisMixer

/-! ### The arena -/

namespace Engine

variable {S K : Type}

theorem getElem?_filterMap {α β : Type} {f : α → Option β} :
    ∀ {l : List α} (i : Nat), (∀ a ∈ l, (f a).isSome) → (l.filterMap f)[i]? = l[i]?.bind f
  | [], _, _ => rfl
  | a :: l, i, h => by
      obtain ⟨b, hb⟩ := Option.isSome_iff_exists.mp (h a List.mem_cons_self)
      rw [List.filterMap_cons_some hb]
      cases i with
      | zero => simp only [List.getElem?_cons_zero, Option.bind_some, hb]
      | succ i =>
          simp only [List.getElem?_cons_succ]
          exact getElem?_filterMap i fun a ha => h a (List.mem_cons_of_mem _ ha)

/-- An arena has an output for every device of its graph. -/
theorem isSome_find?_of_arenaOf {graph : Graph S} {outputs : OrderedMap String K} {arena : List K}
    (h : arenaOf graph outputs = .ok arena) :
    arena = graph.devices.filterMap outputs.find? ∧
      ∀ name ∈ graph.devices, (outputs.find? name).isSome := by
  simp only [arenaOf] at h
  split at h
  · next hm =>
      cases h
      refine ⟨rfl, fun name hn => ?_⟩
      have hc := List.filter_eq_nil_iff.mp hm name hn
      exact Option.isSome_iff_ne_none.mpr (by simpa [OrderedMap.contains] using hc)
  · cases h

/-- **The arena leads to the output of the same name.**  At the place of a virtual axis stands the
output that is known by the name of its device. -/
theorem outputAt_arenaOf {view : SourceView S} {sources : OrderedMap String S}
    {virtual : OrderedMap String Output} {graph : Graph S} {outputs : OrderedMap String K}
    {arena : List K} (hg : (Graph.build view sources virtual).1 = .ok graph)
    (ha : arenaOf graph outputs = .ok arena) {v : VirtAxis} (hv : v ∈ Graph.axesOfAll virtual) :
    ∃ output, outputs.find? v.key.device = some output ∧
      outputAt arena v.deviceId = some output := by
  obtain ⟨-, hd, -, -⟩ := Graph.of_build hg
  obtain ⟨i, hi, hk⟩ := Graph.getElem?_of_mem_axesOfAll hv
  obtain ⟨rfl, hall⟩ := isSome_find?_of_arenaOf ha
  rw [← hd] at hk
  obtain ⟨output, ho⟩ := Option.isSome_iff_exists.mp (hall _ (List.mem_of_getElem? hk))
  refine ⟨output, ho, ?_⟩
  rw [outputAt, hi, if_pos (Int.natCast_nonneg i), Int.toNat_natCast, getElem?_filterMap i hall, hk]
  exact ho

end Engine

namespace Rig

open Engine (Run Step)
open Engine.Step

variable {S K σ : Type} (rig : Rig S K σ) (sources : OrderedMap String S)
  (outputs : OrderedMap String K) (update : Update)

/-! ### Reading -/

/-- The running engine after more acts. -/
def did (run : Run S K (World S K σ)) (acts : List (Act S K)) : Run S K (World S K σ) :=
  { run with world.acts := run.world.acts ++ acts }

@[simp] theorem state_did (run : Run S K (World S K σ)) (acts : List (Act S K)) :
    (did run acts).world.state = run.world.state := rfl

@[simp] theorem acts_did (run : Run S K (World S K σ)) (acts : List (Act S K)) :
    (did run acts).world.acts = run.world.acts ++ acts := rfl

variable {rig sources} in
theorem fault?_of_ok {st : σ} {k : AxisKey} {n : Int} (h : rig.look sources k st = .ok n) :
    rig.fault? sources st k = none := by
  rw [fault?, h]

variable {rig sources} in
theorem fault?_of_error {st : σ} {k : AxisKey} {e : PropagationError}
    (h : rig.look sources k st = .error e) : rig.fault? sources st k = some e := by
  rw [fault?, h]

variable {rig sources} in
theorem upToFault_cons_of_ok {st : σ} {k : AxisKey} {n : Int}
    (h : rig.look sources k st = .ok n) (keys : List AxisKey) :
    rig.upToFault sources st (k :: keys) = k :: rig.upToFault sources st keys := by
  simp [upToFault, fault?_of_ok h]

variable {rig sources} in
theorem upToFault_cons_of_error {st : σ} {k : AxisKey} {e : PropagationError}
    (h : rig.look sources k st = .error e) (keys : List AxisKey) :
    rig.upToFault sources st (k :: keys) = [k] := by
  simp [upToFault, fault?_of_error h]

theorem outcome_readAxis (graph : Graph S) (key : AxisKey) (run : Run S K (World S K σ)) :
    (Engine.readAxis rig.access graph key).outcome run =
      ((rig.look graph.sources key run.world.state).mapError .propagation,
        did run (actOn graph.sources key.device (.read · key.axis))) := by
  simp only [Engine.readAxis, look, actOn, did]
  cases graph.sources.find? key.device with
  | none =>
      simp only [outcome_throw, mapError_error, Option.map_none, Option.toList_none,
        List.append_nil]
  | some source => simp only [outcome_act, access, Option.map_some, Option.toList_some]

/-- The values that the axes are read with. -/
def readings (st : σ) (keys : List AxisKey) : List (AxisKey × Int) :=
  keys.filterMap fun k => (rig.look sources k st).toOption.map (k, ·)

variable {rig sources} in
theorem readings_cons_of_ok {st : σ} {k : AxisKey} {n : Int} (h : rig.look sources k st = .ok n)
    (keys : List AxisKey) :
    rig.readings sources st (k :: keys) = (k, n) :: rig.readings sources st keys :=
  List.filterMap_cons_some (by rw [h]; rfl)

variable {rig sources} in
theorem readings_cons_of_error {st : σ} {k : AxisKey} {e : PropagationError}
    (h : rig.look sources k st = .error e) (keys : List AxisKey) :
    rig.readings sources st (k :: keys) = rig.readings sources st keys :=
  List.filterMap_cons_none (by rw [h]; rfl)

/-- **Reading the dependencies.**  What is not known is read in its order, up to the first that
cannot be read. -/
theorem outcome_gather (graph : Graph S) :
    ∀ (keys : List AxisKey) (known : List (AxisKey × Int)) (run : Run S K (World S K σ)),
      keys.Nodup → update.key ∈ known.map Prod.fst →
      (∀ k ∈ keys, k ≠ update.key → k ∉ known.map Prod.fst) →
      (Engine.gather rig.access graph keys known).outcome run =
        (match (others update keys).findSome? (rig.fault? graph.sources run.world.state) with
          | some e => .error (.propagation e)
          | none =>
            .ok (known ++ rig.readings graph.sources run.world.state (others update keys)),
        did run (rig.reads graph.sources run.world.state (others update keys)))
  | [], known, run, _, _, _ => by
      simp [Engine.gather, others, reads, upToFault, readings, did]
  | k :: keys, known, run, hnd, hu, hk => by
      obtain ⟨hkk, hnd⟩ := List.nodup_cons.mp hnd
      rw [Engine.gather, others]
      by_cases hku : k = update.key
      · -- the axis of the update is known
        have hany : (known.any fun e => e.1 == k) = true := by
          obtain ⟨e, he, hek⟩ := List.mem_map.mp hu
          exact List.any_eq_true.mpr ⟨e, he, by simp [hek, hku]⟩
        rw [if_pos hany, List.filter_cons_of_neg (by simpa using hku)]
        exact outcome_gather graph keys known run hnd hu
          fun k' h => hk k' (List.mem_cons_of_mem _ h)
      · -- any other is read
        have hany : ¬ (known.any fun e => e.1 == k) = true := by
          intro h
          obtain ⟨e, he, hek⟩ := List.any_eq_true.mp h
          exact hk k List.mem_cons_self hku (List.mem_map.mpr ⟨e, he, by simpa using hek⟩)
        rw [if_neg hany, outcome_bind, outcome_readAxis,
          List.filter_cons_of_pos (by simpa using hku)]
        cases hl : rig.look graph.sources k run.world.state with
        | error e =>
            simp only [mapError_error, andThen_error, List.findSome?_cons, fault?_of_error hl,
              reads, upToFault_cons_of_error hl, List.flatMap_singleton]
        | ok n =>
            -- what is read now is not read again, for the keys are distinct
            have hnew : ∀ k' ∈ keys, k' ≠ update.key → k' ∉ (known ++ [(k, n)]).map Prod.fst := by
              intro k' hk' hku' hmem
              rw [List.map_append, List.mem_append, List.map_singleton, List.mem_singleton] at hmem
              rcases hmem with h | rfl
              · exact hk k' (List.mem_cons_of_mem _ hk') hku' h
              · exact hkk hk'
            have hu' : update.key ∈ (known ++ [(k, n)]).map Prod.fst := by
              rw [List.map_append]
              exact List.mem_append_left _ hu
            simp only [mapError_ok, andThen_ok]
            rw [outcome_gather graph keys _ _ hnd hu' hnew]
            simp [did, others, reads, readings_cons_of_ok hl, fault?_of_ok hl,
              upToFault_cons_of_ok hl]

/-! ### Bindings -/

theorem ofList_cons (e : AxisKey × Int) (entries : List (AxisKey × Int)) (k : AxisKey) :
    Bindings.ofList (e :: entries) k =
      (Bindings.ofList entries k).or (if e.1 = k then some e.2 else none) := by
  simp only [Bindings.ofList, List.reverse_cons, List.find?_append, Option.map_or]
  by_cases h : e.1 = k <;> simp [h]

theorem ofList_readings (st : σ) (k : AxisKey) :
    ∀ keys : List AxisKey, Bindings.ofList (rig.readings sources st keys) k =
      if k ∈ keys then (rig.look sources k st).toOption else none
  | [] => rfl
  | k' :: keys => by
      have ih := ofList_readings st k keys
      cases hl : rig.look sources k' st with
      | error e =>
          rw [readings_cons_of_error hl, ih]
          by_cases hk : k = k'
          · subst hk
            simp [hl, Except.toOption]
          · simp [hk]
      | ok n =>
          rw [readings_cons_of_ok hl, ofList_cons, ih]
          by_cases hk : k = k'
          · subst hk
            by_cases hm : k ∈ keys <;> simp [hm, hl, Except.toOption]
          · by_cases hm : k ∈ keys <;> simp [hm, hk, Ne.symm hk]

/-- What is known when the expression is evaluated is what `seen` says of its dependencies. -/
theorem evaluate_readings (st : σ) (v : VirtAxis) :
    v.expr.evaluate
        (.ofList ((update.key, update.value) :: rig.readings sources st (awaited update v))) =
      v.expr.evaluate (rig.seen sources update st v) := by
  refine Expr.evaluate_congr fun k hk => ?_
  change k ∈ v.dependencies at hk
  rw [ofList_cons, ofList_readings, seen]
  by_cases e : k = update.key
  · have hk' : k ∉ awaited update v := by simp [awaited, others, e]
    rw [if_neg hk', if_pos e, if_pos e.symm]
    rfl
  · have hk' : k ∈ awaited update v := by
      simpa [awaited, others, e] using hk
    rw [if_pos hk', if_neg e, if_neg (Ne.symm e), if_pos hk, Option.or_none]

/-! ### One virtual axis -/

/-- The arena has, at the place of `v`, the output called like the device of `v`. -/
def Wired (arena : List K) (v : VirtAxis) : Prop :=
  ∃ output, outputs.find? v.key.device = some output ∧
    Engine.outputAt arena v.deviceId = some output

/-- **One virtual axis.**  Recomputing it does what `serveAxis` says, and fails with the reason it
gives for skipping the axis. -/
theorem outcome_recompute (graph : Graph S) {arena : List K} {v : VirtAxis}
    (hv : Wired outputs arena v) (run : Run S K (World S K σ)) :
    ∃ log, (Engine.recompute rig.access graph arena update v).outcome run =
      match rig.serveAxis graph.sources outputs update run.world.state v with
      | (acts, .ok st) =>
        (.ok (), { run with world := ⟨st, run.world.acts ++ acts⟩, log })
      | (acts, .error e) =>
        (.error (.propagation e), { did run acts with log }) := by
  obtain ⟨output, ho, ha⟩ := hv
  have hgather := rig.outcome_gather update graph v.dependencies [(update.key, update.value)] run
    v.nodup_dependencies (List.mem_singleton.mpr rfl)
    (fun k _ hk h => hk (List.mem_singleton.mp h))
  rw [Engine.recompute, outcome_bind, hgather]
  rw [serveAxis, result, awaited]
  -- a dependency cannot be read, or there is no value, or the write decides
  cases (others update v.dependencies).findSome?
      (rig.fault? graph.sources run.world.state) with
  | some e => exact ⟨_, rfl⟩
  | none =>
      simp only [andThen_ok, List.singleton_append]
      rw [← awaited, evaluate_readings]
      cases v.expr.evaluate (rig.seen graph.sources update run.world.state v) with
      | error e => exact ⟨_, rfl⟩
      | ok n =>
          simp only [outcome_bind, outcome_note, andThen_ok, ha, outcome_act, mapError_ok, put,
            ho, access, actOn, Option.map_some, Option.toList_some, state_did, acts_did,
            List.append_assoc]
          cases rig.write output v.key.axis n run.world.state with
          | error e => exact ⟨_, rfl⟩
          | ok st => exact ⟨_, rfl⟩

/-! ### All virtual axes -/

/-- The running engine after a service.  The axes skipped are counted at once, those written only
when the update is done. -/
def served (run : Run S K (World S K σ)) (service : Service S K σ) (log : Log) :
    Run S K (World S K σ) where
  engine := { run.engine with stats.failed := run.engine.stats.failed + service.skipped.length }
  world := ⟨service.state, run.world.acts ++ service.acts⟩
  log := log

/-- **One virtual axis after another.**  An engine that does not fail fast serves all of them. -/
theorem outcome_recomputeAll (graph : Graph S) {arena : List K} :
    ∀ (vs : List VirtAxis), (∀ v ∈ vs, Wired outputs arena v) →
      ∀ (written : Nat) (run : Run S K (World S K σ)),
        let service := rig.serve graph.sources outputs update vs run.world.state
        ∃ log, (Engine.recomputeAll rig.access graph arena false update vs written).outcome run =
          (.ok (written + service.written), served run service log)
  | [], _, written, run => ⟨run.log, by simp [Engine.recomputeAll, serve, served]⟩
  | v :: rest, hvs, written, run => by
      obtain ⟨log, hrun⟩ :=
        rig.outcome_recompute outputs update graph (hvs v List.mem_cons_self) run
      have ih := outcome_recomputeAll graph rest fun w hw => hvs w (List.mem_cons_of_mem _ hw)
      rw [Engine.recomputeAll, outcome_bind, outcome_attempt, hrun, serve]
      rcases rig.serveAxis graph.sources outputs update run.world.state v with ⟨acts, e | st⟩
      · -- skipped
        simp only [andThen_ok, outcome_bind, outcome_count, Bool.false_eq_true, if_false,
          outcome_note]
        refine (ih written _).imp fun log' h => h.trans ?_
        simp only [served, did, List.length_cons, List.append_assoc, Nat.add_assoc,
          Nat.add_comm 1]
      · -- written
        simp only [andThen_ok]
        refine (ih (written + 1) _).imp fun log' h => h.trans ?_
        simp only [served, List.append_assoc, Nat.add_assoc, Nat.add_comm 1]

/-! ### One update -/

section Handle

variable {view : SourceView S} {sources : OrderedMap String S} {virtual : OrderedMap String Output}
  {graph : Graph S} {outputs : OrderedMap String K} {arena : List K}

/-- **One update.**  The engine goes through the virtual axes that depend on its axis; what it
returns and counts is what `serve` says. -/
theorem outcome_handle (hg : (Graph.build view sources virtual).1 = .ok graph)
    (ha : Engine.arenaOf graph outputs = .ok arena) (stats : Stats) (world : World S K σ)
    (log : Log) :
    let vs := Graph.dependents virtual update.key
    let service := rig.serve sources outputs update vs world.state
    ∃ log', (Engine.handle rig.access update).outcome ⟨⟨graph, arena, false, stats⟩, world, log⟩ =
      (.ok service.written,
        ⟨⟨graph, arena, false, tally vs service stats⟩,
          ⟨service.state, world.acts ++ service.acts⟩, log'⟩) := by
  intro vs service
  obtain ⟨rfl, -, -, -⟩ := Graph.of_build hg
  have hfind := Graph.find?_realAxes_build hg update.key
  have hwired : ∀ v ∈ vs, Wired outputs arena v := fun v hv =>
    Engine.outputAt_arenaOf hg ha (Graph.mem_dependents.mp hv).1
  rw [Engine.outcome_handle, Engine.handleWith, outcome_bind, outcome_count, andThen_ok]
  by_cases hvs : vs = []
  · -- the graph does not know the axis
    rw [if_pos hvs, Option.map_eq_none_iff] at hfind
    simp [hfind, service, hvs, serve, tally]
  · rw [if_neg hvs] at hfind
    obtain ⟨real, hreal, hdown⟩ := Option.map_eq_some_iff.mp hfind
    obtain ⟨log', h⟩ := rig.outcome_recomputeAll outputs update graph vs hwired 0
      ⟨⟨graph, arena, false, { stats with received := stats.received + 1 }⟩, world, log⟩
    simp only [hreal, hdown, outcome_bind]
    rw [h]
    refine ⟨log', ?_⟩
    simp [served, tally, hvs, service]

/-- **Serving an update.**  The virtual axes whose expressions mention the axis of the update are
served one after another, each in the state that the writes of the earlier ones leave.  The axes
read for one of them are pairwise distinct, and the axis of the update is never among them. -/
theorem handle_serves (hg : (Graph.build view sources virtual).1 = .ok graph)
    (ha : Engine.arenaOf graph outputs = .ok arena) (stats : Stats) (world : World S K σ)
    (log : Log) :
    let vs := graph.virtAxes.filter fun v => update.key ∈ v.dependencies
    let service := rig.serve sources outputs update vs world.state
    (∀ v ∈ vs, (awaited update v).Nodup ∧ update.key ∉ awaited update v) ∧
      ∃ log', (Engine.handle rig.access update).outcome
          ⟨⟨graph, arena, false, stats⟩, world, log⟩ =
        (.ok service.written,
          ⟨⟨graph, arena, false, tally vs service stats⟩,
            ⟨service.state, world.acts ++ service.acts⟩, log'⟩) := by
  obtain ⟨-, -, hv, -⟩ := Graph.of_build hg
  refine ⟨fun v _ => ⟨v.nodup_dependencies.filter _, ?_⟩, ?_⟩
  · simp [awaited, others]
  · rw [hv]
    exact rig.outcome_handle update hg ha stats world log

/-- Nothing can be read on the axis `z` of a device and nothing written; a write elsewhere sets
the axis `y` of the device `B`. -/
def looped : Rig String String (AxisKey → Int) where
  read source axis st :=
    if axis = .z then .error (.readFailed ⟨source, axis⟩ "") else .ok (st ⟨source, axis⟩)
  write output axis value st :=
    if axis = .z then .error (.writeFailed ⟨output, axis⟩ "")
    else .ok fun k => if k = ⟨"B", .y⟩ then value else st k

/-- An axis from 0 to 255. -/
def ruleOf (e : Expr) : Rule := ⟨0, 255, e, by decide⟩

/-- A virtual device with the axes `A:X / B:Y`, `A:X + B:X`, `A:X / B:Y` and `B:Z + A:X`. -/
def quotients : Output where
  axes :=
    let quotient := ruleOf (.binary .div (.ref ⟨"A", .x⟩) (.ref ⟨"B", .y⟩))
    .ofList [(.x, quotient), (.y, ruleOf (.binary .add (.ref ⟨"A", .x⟩) (.ref ⟨"B", .x⟩))),
      (.rx, quotient), (.ry, ruleOf (.binary .add (.ref ⟨"B", .z⟩) (.ref ⟨"A", .x⟩)))]
  name := ""
  vendor := 0
  product := 0

/-- The first quotient is skipped, since `B:Y` is 0; the second is served after the sum, whose
write sets `B:Y`; the last axis is skipped, since `B:Z` cannot be read. -/
theorem handle_serves_looped :
    ∃ graph arena,
      (Graph.build ⟨id, fun _ _ => true⟩ (.ofList [("A", "A"), ("B", "B")])
        (.ofList [("out", quotients)])).1 = .ok graph ∧
      Engine.arenaOf graph (.ofList [("out", "out")]) = .ok arena ∧
      ((Engine.handle looped.access ⟨⟨"A", .x⟩, 7⟩).outcome
          ⟨⟨graph, arena, false, {}⟩, ⟨fun _ => 0, []⟩, #[]⟩).2.world.acts =
        [.read "B" .y, .read "B" .x, .wrote "out" .y 7, .read "B" .y, .wrote "out" .rx 1,
          .read "B" .z] := by
  refine ⟨_, _, rfl, rfl, ?_⟩
  obtain ⟨-, log, h⟩ := @handle_serves _ _ _ looped ⟨⟨"A", .x⟩, 7⟩ ⟨id, fun _ _ => true⟩
    (.ofList [("A", "A"), ("B", "B")]) (.ofList [("out", quotients)]) _ (.ofList [("out", "out")])
    _ rfl rfl {} ⟨fun _ => 0, []⟩ #[]
  rw [h]
  change [] ++ (looped.serve _ _ _ _ _).acts = _
  decide +kernel

end Handle

end Rig

end AxisMixer
