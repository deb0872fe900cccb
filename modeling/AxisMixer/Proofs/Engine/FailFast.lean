import AxisMixer.Proofs.Engine.Swapping

/-!
# Engine — failing fast is stopping early

An engine that isolates errors and one that fails fast take the virtual axes of an update in the
same order, and recompute each of them in the same way.  They differ in one thing only: where a
virtual axis cannot be recomputed, the first goes on with the next one and the second stops.

The recomputation of one virtual axis is a `Turn`: what is done to the devices for it, how it ends,
and the state that it leaves.  It takes no notice of the engine (`blind_recompute`) nor of what was
done to the devices before (`harmless_past`), so that the turns of a run are known from the state in
which it begins (`turns`).  What an engine does is to take these turns up to the first that stops it
(`follows_handle`, `follows_handleAll`); and those of an engine that fails fast are the turns of the
other one up to the first that fails (`turns_true_of_failing`).

* `Engine.turns`: the turns of a run.
* `Engine.failFast_stops`: the two engines on the same update, and on the same updates.
-/

namespace AxisMixer.Engine

open Step

variable {S K σ α β : Type}

/-! ### What is on record -/

/-- The running engine as it is if these contacts were made before. -/
def Run.past (contacts : List (Contact S K)) (run : Run S K (Recorded S K σ)) :
    Run S K (Recorded S K σ) :=
  { run with world.contacts := contacts ++ run.world.contacts }

/-- No step looks at the record, and what it does is recorded behind what is there. -/
theorem harmless_past (access : DeviceAccess S K σ) (contacts : List (Contact S K)) :
    Harmless access.recorded (Run.past contacts) where
  note _ _ := through_once fun _ => rfl
  read source axis := by
    refine through_once fun run => ?_
    simp only [onWorld, Run.past, DeviceAccess.recorded, List.append_assoc]
  write output axis n := by
    refine through_once fun run => ?_
    simp only [onWorld, Run.past, DeviceAccess.recorded, List.append_assoc]

section Turns

variable (access : DeviceAccess S K σ) (graph : Graph S) (arena : List K)

/-! ### Turns -/

/-- A virtual axis that is to be recomputed because of an update. -/
structure Job where
  update : Update
  axis : VirtAxis

/-- The virtual axes to be recomputed because of the update, in the order of the graph. -/
def jobs (update : Update) : List Job :=
  (((graph.realAxes.find? update.key).map RealAxis.downstream).getD []).map (⟨update, ·⟩)

/-- A job in its turn: what is done to the devices for it, how it ends, and the state it leaves. -/
structure Turn (S K σ : Type) where
  job : Job
  contacts : List (Contact S K)
  result : Except Failure Unit
  state : σ

/-- The turn of the job if it begins in the state. -/
def turn (job : Job) (state : σ) : Turn S K σ :=
  let (result, run) := (recompute access.recorded graph arena job.update job.axis).outcome
    ⟨⟨graph, arena, false, {}⟩, ⟨state, []⟩, #[]⟩
  ⟨job, run.world.contacts, result, run.world.state⟩

/-- What stops an engine at the turn.  Errors that concern one virtual axis stop it if it fails
fast, and all others do in any case. -/
def Turn.stop? (failFast : Bool) (t : Turn S K σ) : Option Failure :=
  match t.result with
  | .ok () => none
  | .error (.propagation e) => if failFast then some (.propagation e) else none
  | .error e => some e

theorem Turn.stop?_of_ok {failFast : Bool} {t : Turn S K σ} (h : t.result = .ok ()) :
    t.stop? failFast = none := by
  rw [stop?, h]

theorem Turn.stop?_true_of_error {t : Turn S K σ} {e : Failure} (h : t.result = .error e) :
    t.stop? true = some e := by
  rw [stop?, h]
  cases e <;> rfl

/-- A failure that does not concern one virtual axis alone stops every engine. -/
theorem Turn.stop?_of_other {failFast : Bool} {t : Turn S K σ} {e : Failure}
    (h : t.result = .error e) (other : ∀ p, e ≠ .propagation p) : t.stop? failFast = some e := by
  rw [stop?, h]
  cases e with
  | propagation p => exact absurd rfl (other p)
  | _ => rfl

/-- The jobs in their turns, each in the state that the one before leaves, up to the first turn that
stops the engine. -/
def turns (failFast : Bool) : List Job → σ → List (Turn S K σ)
  | [], _ => []
  | job :: rest, state =>
    let t := turn access graph arena job state
    match t.stop? failFast with
    | none => t :: turns failFast rest t.state
    | some _ => [t]

/-- The devices and their record when the turn is over. -/
def Recorded.behind (w : Recorded S K σ) (t : Turn S K σ) : Recorded S K σ :=
  ⟨t.state, w.contacts ++ t.contacts⟩

/-- What an engine comes to by these turns: what stops it, or `a`. -/
def conclude (failFast : Bool) (ts : List (Turn S K σ)) (a : α) : Except Failure α :=
  match ts.findSome? (Turn.stop? failFast) with
  | none => .ok a
  | some e => .error e

end Turns

section Follows

variable {access : DeviceAccess S K σ} {graph : Graph S} {arena : List K} {failFast : Bool}

variable (access graph arena) in
/-- **One turn.**  Whatever came before, recomputing a virtual axis is its turn. -/
theorem outcome_recompute_turn (job : Job) (run : Run S K (Recorded S K σ)) :
    let t := turn access graph arena job run.world.state
    ∃ log, (recompute access.recorded graph arena job.update job.axis).outcome run =
      (t.result, ⟨run.engine, run.world.behind t, log⟩) := by
  intro t
  let fresh : Run S K (Recorded S K σ) := ⟨⟨graph, arena, false, {}⟩, ⟨run.world.state, []⟩, #[]⟩
  have hrun : run = (fresh.past run.world.contacts).within run.engine run.log := by
    simp only [fresh, Run.past, Run.within, List.append_nil, Array.append_empty]
    rfl
  rcases hfresh : (recompute access.recorded graph arena job.update job.axis).outcome fresh with
    ⟨r, next⟩
  have ht : t = ⟨job, next.world.contacts, r, next.world.state⟩ := by
    simp only [t, turn]
    rw [hfresh]
  -- of the engine nothing has changed
  have hengine : next.engine = fresh.engine := (ending_recompute hfresh).1
  refine ⟨run.log ++ next.log, ?_⟩
  have hblind := blind_recompute access.recorded graph arena job.update job.axis
  have hpast := (harmless_past access run.world.contacts).recompute graph arena job.update job.axis
  rw [hrun, hblind.outcome, hpast.outcome, hfresh, ← hrun, ht]
  simp only [Run.past, Run.within, hengine]
  rfl

variable {rest : List Job} {e : Failure}

/-- Behind a turn that stops the engine no job has its turn. -/
theorem turns_append_of_some :
    ∀ {js : List Job} {state : σ},
      (turns access graph arena failFast js state).findSome? (Turn.stop? failFast) = some e →
      turns access graph arena failFast (js ++ rest) state =
        turns access graph arena failFast js state
  | [], _, h => by cases h
  | job :: js, state, h => by
      simp only [List.cons_append, turns] at h ⊢
      cases hstop : (turn access graph arena job state).stop? failFast with
      | some e => rfl
      | none =>
          simp only [hstop, List.findSome?_cons] at h
          simp only [turns_append_of_some h]

/-- Behind turns that do not stop the engine the other jobs have theirs. -/
theorem turns_append_of_none :
    ∀ {js : List Job} {w : Recorded S K σ},
      (turns access graph arena failFast js w.state).findSome? (Turn.stop? failFast) = none →
      turns access graph arena failFast (js ++ rest) w.state =
        turns access graph arena failFast js w.state ++
          turns access graph arena failFast rest
            ((turns access graph arena failFast js w.state).foldl Recorded.behind w).state
  | [], _, _ => rfl
  | job :: js, w, h => by
      simp only [List.cons_append, turns] at h ⊢
      cases hstop : (turn access graph arena job w.state).stop? failFast with
      | some e => simp only [hstop, List.findSome?_cons, reduceCtorEq] at h
      | none =>
          simp only [hstop, List.findSome?_cons] at h
          have ih := turns_append_of_none (w := w.behind (turn access graph arena job w.state)) h
          exact congrArg (_ :: ·) ih

/-- Beginning with the running engine, the turns are taken; this comes to `a` unless it is
stopped. -/
structure Follows (ts : List (Turn S K σ)) (a : α) (run : Run S K (Recorded S K σ))
    (out : Except Failure α × Run S K (Recorded S K σ)) : Prop where
  result : out.1 = conclude run.engine.failFast ts a
  world : out.2.world = ts.foldl Recorded.behind run.world
  engine : out.2.engine = { run.engine with stats := out.2.engine.stats }

variable {t : Turn S K σ} {ts : List (Turn S K σ)} {a : α} {run next : Run S K (Recorded S K σ)}
  {out : Except Failure α × Run S K (Recorded S K σ)}

theorem Follows.cons (h : Follows ts a next out) (hstop : t.stop? run.engine.failFast = none)
    (hworld : next.world = run.world.behind t)
    (hengine : next.engine = { run.engine with stats := next.engine.stats }) :
    Follows (t :: ts) a run out where
  result := by
    rw [h.result, hengine, conclude, conclude, List.findSome?_cons, hstop]
  world := by
    rw [h.world, hworld, List.foldl_cons]
  engine := by
    rw [h.engine, hengine]

theorem Follows.stopped (hstop : t.stop? run.engine.failFast = some e)
    (hworld : next.world = run.world.behind t)
    (hengine : next.engine = { run.engine with stats := next.engine.stats }) :
    Follows [t] a run (.error e, next) where
  result := by
    rw [conclude, List.findSome?_cons, hstop]
  world := hworld
  engine := hengine

/-- The number of turns that do not fail. -/
def succeeded (ts : List (Turn S K σ)) : Nat := ts.countP fun t => t.result.isOk

theorem succeeded_cons_of_ok (h : t.result = .ok ()) (ts : List (Turn S K σ)) :
    succeeded (t :: ts) = succeeded ts + 1 :=
  List.countP_cons_of_pos (by rw [h]; rfl)

theorem succeeded_cons_of_error (h : t.result = .error e) (ts : List (Turn S K σ)) :
    succeeded (t :: ts) = succeeded ts :=
  List.countP_cons_of_neg (by rw [h]; exact Bool.false_ne_true)

variable (access graph arena) in
/-- **Virtual axes one after another.** -/
theorem follows_recomputeAll (update : Update) :
    ∀ (vs : List VirtAxis) (written : Nat) (run : Run S K (Recorded S K σ)),
      run.engine.failFast = failFast →
      let ts := turns access graph arena failFast (vs.map (⟨update, ·⟩)) run.world.state
      Follows ts (written + succeeded ts) run
        ((recomputeAll access.recorded graph arena failFast update vs written).outcome run)
  | [], written, run, _ => ⟨rfl, rfl, rfl⟩
  | v :: rest, written, run, hff => by
      obtain ⟨log, hturn⟩ := outcome_recompute_turn access graph arena ⟨update, v⟩ run
      have ih := follows_recomputeAll update rest
      simp only [List.map_cons, turns]
      rw [recomputeAll, outcome_bind, outcome_attempt, hturn]
      generalize turn access graph arena ⟨update, v⟩ run.world.state = t
      let next : Run S K (Recorded S K σ) := ⟨run.engine, run.world.behind t, log⟩
      rcases hr : t.result with e | ⟨⟩
      · by_cases hp : ∃ p, e = .propagation p
        · obtain ⟨p, rfl⟩ := hp
          simp only [andThen_ok, outcome_bind, outcome_count]
          cases failFast with
          | true =>
              have hstop := Turn.stop?_true_of_error hr
              simp only [hstop, if_true, outcome_bind, outcome_throw, andThen_error]
              exact .stopped (hff ▸ hstop) rfl rfl
          | false =>
              have hstop : t.stop? false = none := by
                rw [Turn.stop?, hr]
                rfl
              simp only [hstop, succeeded_cons_of_error hr, Bool.false_eq_true, if_false,
                outcome_bind, outcome_note, andThen_ok]
              exact (ih written (skipped update v p next) hff).cons (hff ▸ hstop) rfl rfl
        · have hstop : t.stop? failFast = some e := Turn.stop?_of_other hr fun p he => hp ⟨p, he⟩
          simp only [hstop]
          cases e with
          | propagation p => exact absurd ⟨p, rfl⟩ hp
          | _ => exact .stopped (hff ▸ hstop) rfl rfl
      · have hstop : t.stop? failFast = none := Turn.stop?_of_ok hr
        simp only [hstop, succeeded_cons_of_ok hr, andThen_ok]
        rw [← Nat.succ_add_eq_add_succ]
        exact (ih (written + 1) next hff).cons (hff ▸ hstop) rfl rfl

/-- Behind the turns that lead to `a` come those that lead on from `a`, unless the engine is
stopped. -/
theorem Follows.trans {f : α → Step S K (Recorded S K σ) β} {js js' : List Job} {b : β}
    (h : Follows (turns access graph arena failFast js run.world.state) a run out)
    (hff : run.engine.failFast = failFast)
    (hf : ∀ last : Run S K (Recorded S K σ),
      last.engine = { run.engine with stats := last.engine.stats } →
        Follows (turns access graph arena failFast js' last.world.state) b last
          ((f a).outcome last)) :
    Follows (turns access graph arena failFast (js ++ js') run.world.state) b run
      (andThen f out) := by
  obtain ⟨r, last⟩ := out
  obtain ⟨hresult, hworld, hengine⟩ := h
  subst hff
  rw [conclude] at hresult
  dsimp only at hresult hworld hengine
  split at hresult
  · next hstop =>
      -- the engine goes on
      subst hresult
      have h' := hf last hengine
      rw [turns_append_of_none hstop, ← hworld]
      refine ⟨?_, ?_, ?_⟩
      · rw [andThen_ok, h'.result, hengine, conclude, conclude, List.findSome?_append, hstop,
          Option.none_or]
      · rw [andThen_ok, h'.world, List.foldl_append, hworld]
      · rw [andThen_ok, h'.engine, hengine]
  · next e hstop =>
      subst hresult
      rw [turns_append_of_some hstop]
      exact ⟨by rw [andThen_error, conclude, hstop], hworld, hengine⟩

/-- What takes no turn leads from `a` to `b`. -/
theorem Follows.map {f : α → Step S K (Recorded S K σ) β} {js : List Job} {b : β}
    (h : Follows (turns access graph arena failFast js run.world.state) a run out)
    (hff : run.engine.failFast = failFast)
    (hf : ∀ last : Run S K (Recorded S K σ), Follows [] b last ((f a).outcome last)) :
    Follows (turns access graph arena failFast js run.world.state) b run (andThen f out) := by
  have hnil : Follows (turns access graph arena failFast (js ++ []) run.world.state) b run
      (andThen f out) := h.trans hff fun last _ => hf last
  rwa [List.append_nil] at hnil

variable (access) in
/-- **One update.** -/
theorem follows_handle (update : Update) (run : Run S K (Recorded S K σ))
    (hgraph : run.engine.graph = graph) (harena : run.engine.arena = arena)
    (hff : run.engine.failFast = failFast) :
    let ts := turns access graph arena failFast (jobs graph update) run.world.state
    Follows ts (succeeded ts) run ((handle access.recorded update).outcome run) := by
  subst hgraph harena hff
  rw [outcome_handle, handleWith, outcome_bind, outcome_count, andThen_ok, jobs]
  cases hfind : run.engine.graph.realAxes.find? update.key with
  | none => exact ⟨rfl, rfl, rfl⟩
  | some real =>
      have hall := follows_recomputeAll access run.engine.graph run.engine.arena update
        real.downstream 0 (received run) rfl
      simp only [Nat.zero_add] at hall
      have hrun : Follows _ _ run _ := ⟨hall.result, hall.world, hall.engine⟩
      dsimp only
      rw [outcome_bind]
      refine hrun.map rfl fun last => ?_
      exact ⟨rfl, rfl, rfl⟩

variable (access) in
/-- **Updates one after another.** -/
theorem follows_handleAll :
    ∀ (updates : List Update) (run : Run S K (Recorded S K σ)),
      run.engine.graph = graph → run.engine.arena = arena → run.engine.failFast = failFast →
      Follows (turns access graph arena failFast (updates.flatMap (jobs graph)) run.world.state) ()
        run ((handleAll access.recorded updates).outcome run)
  | [], run, _, _, _ => ⟨rfl, rfl, rfl⟩
  | update :: rest, run, hgraph, harena, hff => by
      rw [handleAll, outcome_bind, List.flatMap_cons]
      refine (follows_handle access update run hgraph harena hff).trans hff fun last hlast => ?_
      refine follows_handleAll rest last ?_ ?_ ?_ <;> rw [hlast] <;> assumption

end Follows

/-! ### Two engines -/

section Compare

variable {access : DeviceAccess S K σ} {graph : Graph S} {arena : List K} {t : Turn S K σ}
  {e : Failure}

theorem turns_true_of_succeeding :
    ∀ {js : List Job} {state : σ}, (∀ t ∈ turns access graph arena false js state,
        t.result = .ok ()) →
      turns access graph arena true js state = turns access graph arena false js state
  | [], _, _ => rfl
  | job :: rest, state, h => by
      have hhead : (turn access graph arena job state).result = .ok () := by
        refine h _ ?_
        rw [turns]
        split <;> exact List.mem_cons_self
      simp only [turns, Turn.stop?_of_ok hhead] at h ⊢
      exact congrArg _ (turns_true_of_succeeding fun t ht => h t (List.mem_cons_of_mem _ ht))

/-- **Failing fast is stopping early.**  An engine that fails fast takes the turns of one that
isolates errors up to the first that fails. -/
theorem turns_true_of_failing :
    ∀ {js : List Job} {state : σ} {before behind : List (Turn S K σ)},
      turns access graph arena false js state = before ++ t :: behind →
      (∀ t ∈ before, t.result = .ok ()) → t.result = .error e →
      turns access graph arena true js state = before ++ [t]
  | [], _, before, behind, h, _, _ => by
      rw [turns] at h
      exact absurd h.symm (List.append_ne_nil_of_right_ne_nil _ (List.cons_ne_nil _ _))
  | job :: rest, state, [], behind, h, _, he => by
      have hhead : turn access graph arena job state = t := by
        rw [turns] at h
        split at h <;> exact (List.cons.inj h).1
      simp only [turns, hhead, Turn.stop?_true_of_error he, List.nil_append]
  | job :: rest, state, t₀ :: before, behind, h, hok, he => by
      obtain ⟨hok₀, hok⟩ := List.forall_mem_cons.mp hok
      have hhead : turn access graph arena job state = t₀ := by
        rw [turns] at h
        split at h <;> exact (List.cons.inj h).1
      simp only [turns, hhead, Turn.stop?_of_ok hok₀] at h ⊢
      exact congrArg _ (turns_true_of_failing (List.cons.inj h).2 hok he)

theorem foldl_behind :
    ∀ (ts : List (Turn S K σ)) (w : Recorded S K σ),
      (ts.foldl Recorded.behind w).contacts = w.contacts ++ ts.flatMap Turn.contacts
  | [], w => (List.append_nil _).symm
  | t :: ts, w => by
      rw [List.foldl_cons, foldl_behind ts, List.flatMap_cons, Recorded.behind, List.append_assoc]

/-- Of two runs the first makes the contacts of all turns.  If none of them fails, the second run
comes to the same; otherwise it makes the contacts up to the first turn that fails, and fails with
its error. -/
structure StopsEarly (ts : List (Turn S K σ)) (past : List (Contact S K))
    (isolating fast : Except Failure α × Run S K (Recorded S K σ)) : Prop where
  all : isolating.2.world.contacts = past ++ ts.flatMap Turn.contacts
  same : (∀ t ∈ ts, t.result = .ok ()) →
    fast.1 = isolating.1 ∧ fast.2.world = isolating.2.world
  stops : ∀ before t behind e, ts = before ++ t :: behind → (∀ t ∈ before, t.result = .ok ()) →
    t.result = .error e →
      fast.1 = .error e ∧
        fast.2.world = ⟨t.state, past ++ (before ++ [t]).flatMap Turn.contacts⟩

/-- Two engines that take their turns, and come to what these lead to. -/
theorem StopsEarly.of_follows (value : List (Turn S K σ) → α) {js : List Job}
    {world : Recorded S K σ} {run run' : Run S K (Recorded S K σ)}
    {isolating fast : Except Failure α × Run S K (Recorded S K σ)}
    (h : Follows (turns access graph arena false js world.state)
      (value (turns access graph arena false js world.state)) run isolating)
    (h' : Follows (turns access graph arena true js world.state)
      (value (turns access graph arena true js world.state)) run' fast)
    (hworld : run.world = world) (hworld' : run'.world = world)
    (hff' : run'.engine.failFast = true) :
    StopsEarly (turns access graph arena false js world.state) world.contacts isolating fast where
  all := by
    rw [h.world, hworld, foldl_behind]
  same hok := by
    have hnone (failFast : Bool) : (turns access graph arena false js world.state).findSome?
        (Turn.stop? failFast) = none :=
      List.findSome?_eq_none_iff.mpr fun t ht => Turn.stop?_of_ok (hok t ht)
    rw [turns_true_of_succeeding hok] at h'
    rw [h.result, h'.result, h.world, h'.world, hworld, hworld', conclude, conclude, hnone, hnone]
    exact ⟨rfl, rfl⟩
  stops before t behind e hts hok he := by
    rw [turns_true_of_failing hts hok he] at h'
    have hbefore : before.findSome? (Turn.stop? true) = none :=
      List.findSome?_eq_none_iff.mpr fun t ht => Turn.stop?_of_ok (hok t ht)
    refine ⟨?_, ?_⟩
    · rw [h'.result, hff', conclude, List.findSome?_append, hbefore, Option.none_or,
        List.findSome?_singleton, Turn.stop?_true_of_error he]
    · rw [h'.world, hworld', ← foldl_behind, List.foldl_append]
      rfl

/-- An update at which an engine fails is the last that it handles. -/
theorem handleAll_append_of_error (access : DeviceAccess S K σ) (later : List Update)
    {last : Run S K σ} :
    ∀ {updates : List Update} {run : Run S K σ},
      (handleAll access updates).outcome run = (.error e, last) →
      (handleAll access (updates ++ later)).outcome run = (.error e, last)
  | [], run, h => by cases h
  | update :: rest, run, h => by
      rw [List.cons_append, handleAll, outcome_bind]
      rw [handleAll, outcome_bind] at h
      rcases hfirst : (handle access update).outcome run with ⟨e' | n, next⟩
      · rw [hfirst] at h
        exact h
      · rw [hfirst] at h
        exact handleAll_append_of_error access later h

/-- **Failing fast is stopping early.**  Beginning with the same state of the devices, an update is
handled by an engine that isolates errors and by one that fails fast.  If every virtual axis is
written, they do the same and return the same number.  Otherwise the engine that fails fast does
what the other one does up to the end of the first turn that fails, and fails with the error of that
turn.  The same holds of updates one after another; and the updates behind the one at which the
engine fails make no difference at all. -/
theorem failFast_stops (access : DeviceAccess S K σ) (graph : Graph S) (arena : List K)
    (stats : Stats) (world : Recorded S K σ) (log : Log) :
    let start (failFast : Bool) : Run S K (Recorded S K σ) :=
      ⟨⟨graph, arena, failFast, stats⟩, world, log⟩
    let isolated (js : List Job) := turns access graph arena false js world.state
    (∀ update, StopsEarly (isolated (jobs graph update)) world.contacts
      ((handle access.recorded update).outcome (start false))
      ((handle access.recorded update).outcome (start true))) ∧
    (∀ updates : List Update, StopsEarly (isolated (updates.flatMap (jobs graph))) world.contacts
      ((handleAll access.recorded updates).outcome (start false))
      ((handleAll access.recorded updates).outcome (start true))) ∧
    ∀ updates e last, (handleAll access.recorded updates).outcome (start true) = (.error e, last) →
      ∀ later, (handleAll access.recorded (updates ++ later)).outcome (start true) =
        (.error e, last) := by
  intro start isolated
  refine ⟨fun update => ?_, fun updates => ?_, fun updates e last h later => ?_⟩
  · have h (failFast : Bool) := follows_handle access update (start failFast) rfl rfl rfl
    exact .of_follows succeeded (h false) (h true) rfl rfl rfl
  · have h (failFast : Bool) := follows_handleAll access updates (start failFast) rfl rfl rfl
    exact .of_follows (fun _ => ()) (h false) (h true) rfl rfl rfl
  · exact handleAll_append_of_error access.recorded later h

end Compare

/-- A virtual device with the axes `A:X + B:X`, `A:X / B:Y`, `A:X + B:X + B:Z` and `A:X`. -/
def layered : Output where
  axes :=
    let sum : Expr := .binary .add (.ref ⟨"A", .x⟩) (.ref ⟨"B", .x⟩)
    .ofList [(.x, Rig.ruleOf sum),
      (.y, Rig.ruleOf (.binary .div (.ref ⟨"A", .x⟩) (.ref ⟨"B", .y⟩))),
      (.rx, Rig.ruleOf (.binary .add sum (.ref ⟨"B", .z⟩))), (.ry, Rig.ruleOf (.ref ⟨"A", .x⟩))]
  name := ""
  vendor := 0
  product := 0

/-- The first write sets `B:Y`, so that the second axis can be written too.  For the third one `B:X`
is read, but `B:Z` cannot be; there the engine stops, though `A:X` alone could be written. -/
theorem failFast_stops_layered :
    ∃ graph arena,
      (Graph.build ⟨id, fun _ _ => true⟩ (.ofList [("A", "A"), ("B", "B")])
        (.ofList [("out", layered)])).1 = .ok graph ∧
      arenaOf graph (.ofList [("out", "out")]) = .ok arena ∧
      let fast := (handle Rig.looped.access.recorded ⟨⟨"A", .x⟩, 7⟩).outcome
        ⟨⟨graph, arena, true, {}⟩, ⟨⟨fun _ => 0, []⟩, []⟩, #[]⟩
      fast.1 = .error (.propagation (.readFailed ⟨"B", .z⟩ "")) ∧
        fast.2.world.contacts = [.read "B" .x (.ok 0), .write "out" .x 7 (.ok ()),
          .read "B" .y (.ok 7), .write "out" .y 1 (.ok ()), .read "B" .x (.ok 0),
          .read "B" .z (.error (.propagation (.readFailed ⟨"B", .z⟩ "")))] := by
  obtain ⟨graph, arena, hg, ha, hresults, hcontacts⟩ : ∃ graph arena,
      (Graph.build ⟨id, fun _ _ => true⟩ (.ofList [("A", "A"), ("B", "B")])
        (.ofList [("out", layered)])).1 = .ok graph ∧
      arenaOf graph (.ofList [("out", "out")]) = .ok arena ∧
      (turns Rig.looped.access graph arena false (jobs graph ⟨⟨"A", .x⟩, 7⟩)
        ⟨fun _ => 0, []⟩).map Turn.result =
          [.ok (), .ok (), .error (.propagation (.readFailed ⟨"B", .z⟩ "")), .ok ()] ∧
      (turns Rig.looped.access graph arena false (jobs graph ⟨⟨"A", .x⟩, 7⟩)
        ⟨fun _ => 0, []⟩).map Turn.contacts =
          [[.read "B" .x (.ok 0), .write "out" .x 7 (.ok ())],
            [.read "B" .y (.ok 7), .write "out" .y 1 (.ok ())],
            [.read "B" .x (.ok 0),
              .read "B" .z (.error (.propagation (.readFailed ⟨"B", .z⟩ "")))],
            [.write "out" .ry 7 (.ok ())]] := by
    refine ⟨_, _, rfl, rfl, ?_, ?_⟩
    · rfl
    · rfl
  have hstops := ((failFast_stops Rig.looped.access graph arena {} ⟨⟨fun _ => 0, []⟩, []⟩ #[]).1
    ⟨⟨"A", .x⟩, 7⟩).stops
  refine ⟨graph, arena, hg, ha, ?_⟩
  dsimp only at hstops
  generalize turns Rig.looped.access graph arena false (jobs graph ⟨⟨"A", .x⟩, 7⟩)
    ⟨fun _ => 0, []⟩ = ts at hstops hresults hcontacts
  obtain ⟨a, _, rfl, hok, hresults⟩ := List.map_eq_cons_iff.mp hresults
  obtain ⟨b, _, rfl, hok', hresults⟩ := List.map_eq_cons_iff.mp hresults
  obtain ⟨c, behind, rfl, herror, -⟩ := List.map_eq_cons_iff.mp hresults
  simp only [List.map_cons, List.cons.injEq] at hcontacts
  obtain ⟨ha, hb, hc, -⟩ := hcontacts
  obtain ⟨hresult, hworld⟩ := hstops [a, b] c behind _ rfl
    (List.forall_mem_cons.mpr ⟨hok, List.forall_mem_singleton.mpr hok'⟩) herror
  refine ⟨hresult, ?_⟩
  rw [hworld]
  simp only [List.cons_append, List.nil_append, List.flatMap_cons, List.flatMap_nil, ha, hb, hc]

end AxisMixer.Engine
