import AxisMixer.Proofs.Engine.Outcome

/-!
# Engine — what may come of recomputing virtual axes

Devices may fail in any way here: with errors that concern one axis, which the engine can survive,
and with any others.

Recomputing one virtual axis reads dependencies, and then one of four things happens
(`Engine.Ending`): a dependency cannot be read, the expression has no value, the arena has no output
for the axis, or the axis is written, which may fail as well.  In all of this the engine stays as it
is (`ending_recompute`).

An update takes the virtual axes downstream one after another.  A `Pass` is such a course of events
with what went wrong on the way, its mishaps.

* `ending_recompute`: one virtual axis.
* `pass_of_recomputeAll`: virtual axes one after another.
* `handle_cases`: an update is ignored, or it takes a pass.
-/

namespace AxisMixer.Engine

open Step

variable {S K σ : Type}

/-! ### Reading dependencies -/

section Reading

variable (access : DeviceAccess S K σ) (sources : OrderedMap String S)

/-- Any number of reads takes the world from one state to the other. -/
inductive Reads : σ → σ → Prop
  | refl (w : σ) : Reads w w
  | more {w w₁ w' : σ} {source : S} {axis : Axis} (h : (access.read source axis w).2 = w₁)
      (t : Reads w₁ w') : Reads w w'

/-- Reading the axis called `key` fails and leaves the world `w`. -/
inductive ReadFails (key : AxisKey) (w : σ) : Failure → Prop
  | undefined (h : sources.find? key.device = none) :
      ReadFails key w (.propagation (.readFailed key "device is not defined"))
  | device {source : S} {e : Failure} {w₀ : σ} (hs : sources.find? key.device = some source)
      (h : access.read source key.axis w₀ = (.error e, w)) : ReadFails key w e

variable {access sources} in
theorem Reads.one {source : S} {axis : Axis} {w w' : σ} {r : Except Failure Int}
    (h : access.read source axis w = (r, w')) : Reads access w w' :=
  .more (congrArg Prod.snd h) (.refl w')

variable {access sources} in
theorem Reads.trans {w w₁ w' : σ} (h : Reads access w w₁) (h' : Reads access w₁ w') :
    Reads access w w' := by
  induction h with
  | refl => exact h'
  | more h _ ih => exact .more h (ih h')

end Reading

variable {access : DeviceAccess S K σ} {graph : Graph S} {arena : List K} {update : Update}

/-- Reading an axis changes nothing but the world. -/
theorem readAxis_cases {key : AxisKey} {run next : Run S K σ} {r : Except Failure Int}
    (h : (readAxis access graph key).outcome run = (r, next)) :
    ∃ w, next = { run with world := w } ∧ Reads access run.world w ∧
      ∀ e, r = .error e → ReadFails access graph.sources key w e := by
  rw [readAxis] at h
  cases hs : graph.sources.find? key.device with
  | none =>
      simp only [hs, outcome_throw, Prod.mk.injEq] at h
      obtain ⟨rfl, rfl⟩ := h
      refine ⟨run.world, rfl, .refl _, fun e he => ?_⟩
      cases he
      exact .undefined hs
  | some source =>
      simp only [hs, outcome_act, Prod.mk.injEq] at h
      obtain ⟨rfl, rfl⟩ := h
      refine ⟨_, rfl, .one rfl, fun e he => .device hs (Prod.ext he rfl)⟩

/-- **The dependencies.**  What is known before stays known.  If nothing fails, all of the keys come
to be known; otherwise it is reading one of them that fails. -/
theorem gather_cases :
    ∀ {keys : List AxisKey} {known : List (AxisKey × Int)} {run next : Run S K σ}
      {r : Except Failure (List (AxisKey × Int))},
      (gather access graph keys known).outcome run = (r, next) →
      ∃ w, next = { run with world := w } ∧ Reads access run.world w ∧
        (∀ known', r = .ok known' →
          ∀ k, k ∈ known.map Prod.fst ∨ k ∈ keys → k ∈ known'.map Prod.fst) ∧
        ∀ e, r = .error e → ∃ k ∈ keys, ReadFails access graph.sources k w e
  | [], known, run, next, r, h => by
      cases h
      refine ⟨run.world, rfl, .refl _, fun known' hr k hk => ?_, fun e he => (by cases he)⟩
      cases hr
      simpa using hk
  | key :: keys, known, run, next, r, h => by
      rw [gather] at h
      split at h
      · next hany =>
          -- the axis is known
          obtain ⟨w, hw, hreads, hok, herror⟩ := gather_cases h
          refine ⟨w, hw, hreads, fun known' hr k hk => hok known' hr k ?_, fun e he => ?_⟩
          · obtain ⟨entry, he, hek⟩ := List.any_eq_true.mp hany
            rcases hk with hk | hk
            · exact .inl hk
            · rcases List.mem_cons.mp hk with rfl | hk
              · exact .inl (List.mem_map.mpr ⟨entry, he, by simpa using hek⟩)
              · exact .inr hk
          · obtain ⟨k, hk, hf⟩ := herror e he
            exact ⟨k, List.mem_cons_of_mem _ hk, hf⟩
      · -- the axis is read
        rw [outcome_bind] at h
        rcases hread : (readAxis access graph key).outcome run with ⟨e | n, next₁⟩
        · obtain ⟨w, hw, hreads, herror⟩ := readAxis_cases hread
          rw [hread] at h
          cases h
          refine ⟨w, hw, hreads, fun known' hr => (by cases hr), fun e' he => ?_⟩
          cases he
          exact ⟨key, List.mem_cons_self, herror e rfl⟩
        · obtain ⟨w₁, rfl, hreads₁, -⟩ := readAxis_cases hread
          rw [hread, andThen_ok] at h
          obtain ⟨w, hw, hreads, hok, herror⟩ := gather_cases h
          refine ⟨w, hw, hreads₁.trans hreads, fun known' hr k hk => hok known' hr k ?_,
            fun e he => ?_⟩
          · rw [List.map_append, List.mem_append]
            rcases hk with hk | hk
            · exact .inl (.inl hk)
            · rcases List.mem_cons.mp hk with rfl | hk
              · exact .inl (.inr (List.mem_singleton.mpr rfl))
              · exact .inr hk
          · obtain ⟨k, hk, hf⟩ := herror e he
            exact ⟨k, List.mem_cons_of_mem _ hk, hf⟩

/-! ### One virtual axis -/

/-- How recomputing the virtual axis `v` in the world `w₀` may end, and the world it leaves. -/
inductive Ending (access : DeviceAccess S K σ) (graph : Graph S) (arena : List K) (v : VirtAxis)
    (w₀ : σ) : Except Failure Unit → σ → Prop
  /-- A dependency cannot be read. -/
  | unread {k : AxisKey} {e : Failure} {w : σ} (hk : k ∈ v.dependencies)
      (hreads : Reads access w₀ w) (h : ReadFails access graph.sources k w e) :
      Ending access graph arena v w₀ (.error e) w
  /-- All dependencies are known, but the expression has no value. -/
  | valueless {known : List (AxisKey × Int)} {e : EvalError} {w : σ}
      (hknown : ∀ k ∈ v.dependencies, k ∈ known.map Prod.fst) (hreads : Reads access w₀ w)
      (h : v.expr.evaluate (.ofList known) = .error e) :
      Ending access graph arena v w₀ (.error (.propagation (.ofEval e))) w
  /-- There is no output for the axis. -/
  | outputless {w : σ} (hreads : Reads access w₀ w) (h : outputAt arena v.deviceId = none) :
      Ending access graph arena v w₀ (.error (.noOutput v.deviceId)) w
  /-- The output decides. -/
  | written {output : K} {n : Int} {w w' : σ} {r : Except Failure Unit}
      (hreads : Reads access w₀ w) (ho : outputAt arena v.deviceId = some output)
      (h : access.write output v.key.axis n w = (r, w')) : Ending access graph arena v w₀ r w'

/-- **One virtual axis.**  Recomputing it has an ending, and leaves the engine as it is. -/
theorem ending_recompute {v : VirtAxis} {run next : Run S K σ} {r : Except Failure Unit}
    (h : (recompute access graph arena update v).outcome run = (r, next)) :
    next.engine = run.engine ∧ Ending access graph arena v run.world r next.world := by
  rw [recompute, outcome_bind] at h
  rcases hg : (gather access graph v.dependencies [(update.key, update.value)]).outcome run with
    ⟨e | known, next₁⟩
  · obtain ⟨w, rfl, hreads, -, herror⟩ := gather_cases hg
    obtain ⟨k, hk, hf⟩ := herror e rfl
    rw [hg] at h
    cases h
    exact ⟨rfl, .unread hk hreads hf⟩
  · obtain ⟨w, rfl, hreads, hok, -⟩ := gather_cases hg
    have hknown : ∀ k ∈ v.dependencies, k ∈ known.map Prod.fst :=
      fun k hk => hok known rfl k (.inr hk)
    rw [hg, andThen_ok] at h
    cases hv : v.expr.evaluate (.ofList known) with
    | error e =>
        simp only [hv] at h
        cases h
        exact ⟨rfl, .valueless hknown hreads hv⟩
    | ok n =>
        simp only [hv, outcome_bind, outcome_note, andThen_ok] at h
        cases ho : outputAt arena v.deviceId with
        | none =>
            simp only [ho] at h
            cases h
            exact ⟨rfl, .outputless hreads ho⟩
        | some output =>
            simp only [ho, outcome_act] at h
            cases h
            exact ⟨rfl, .written hreads ho rfl⟩

/-! ### Virtual axes one after another -/

/-- A virtual axis that could not be recomputed, the cause, and the world that the attempt left. -/
structure Mishap (σ : Type) where
  axis : VirtAxis
  cause : Failure
  world : σ

/-- The running engine with one more failure counted. -/
def failed (run : Run S K σ) : Run S K σ :=
  { run with engine.stats.failed := run.engine.stats.failed + 1 }

/-- The running engine when it has said that `v` is skipped because of `e`. -/
def skipped (update : Update) (v : VirtAxis) (e : PropagationError) (run : Run S K σ) :
    Run S K σ :=
  { failed run with log := run.log.push ⟨.warning, .engine, skipMessage update v e⟩ }

/-- Virtual axes are recomputed one after another, beginning with the first running engine and
ending with the second one; this comes to the number of those written, or to a failure. -/
inductive Pass (access : DeviceAccess S K σ) (graph : Graph S) (arena : List K) (failFast : Bool)
    (update : Update) :
    List VirtAxis → Run S K σ → List (Mishap σ) → Except Failure Nat → Run S K σ → Prop
  | done {run : Run S K σ} : Pass access graph arena failFast update [] run [] (.ok 0) run
  | wrote {v : VirtAxis} {rest : List VirtAxis} {run next last : Run S K σ}
      {mishaps : List (Mishap σ)} {r : Except Failure Nat}
      (h : (recompute access graph arena update v).outcome run = (.ok (), next))
      (t : Pass access graph arena failFast update rest next mishaps r last) :
      Pass access graph arena failFast update (v :: rest) run mishaps (r.map (· + 1)) last
  /-- An error that concerns the one axis does not keep the engine from the others. -/
  | skipped {v : VirtAxis} {rest : List VirtAxis} {run next last : Run S K σ}
      {mishaps : List (Mishap σ)} {r : Except Failure Nat} {e : PropagationError}
      (h : (recompute access graph arena update v).outcome run = (.error (.propagation e), next))
      (isolating : failFast = false)
      (t : Pass access graph arena failFast update rest (skipped update v e next) mishaps r last) :
      Pass access graph arena failFast update (v :: rest) run
        (⟨v, .propagation e, next.world⟩ :: mishaps) r last
  /-- An engine that fails fast counts the error and stops. -/
  | stopped {v : VirtAxis} {rest : List VirtAxis} {run next : Run S K σ} {e : PropagationError}
      (h : (recompute access graph arena update v).outcome run = (.error (.propagation e), next))
      (fast : failFast = true) :
      Pass access graph arena failFast update (v :: rest) run [⟨v, .propagation e, next.world⟩]
        (.error (.propagation e)) (failed next)
  /-- Any other failure ends the pass at once. -/
  | broken {v : VirtAxis} {rest : List VirtAxis} {run next : Run S K σ} {e : Failure}
      (h : (recompute access graph arena update v).outcome run = (.error e, next))
      (other : ∀ p, e ≠ .propagation p) :
      Pass access graph arena failFast update (v :: rest) run [⟨v, e, next.world⟩] (.error e) next

/-- **The mishaps of a pass.**  What every ending keeps of the world holds to the end, and it held
when a virtual axis came to the ending that is its mishap. -/
theorem Pass.mishaps {P : σ → Prop} {failFast : Bool} {vs : List VirtAxis} {run last : Run S K σ}
    {mishaps : List (Mishap σ)} {r : Except Failure Nat}
    (h : Pass access graph arena failFast update vs run mishaps r last)
    (keeps : ∀ v w₀ r w, Ending access graph arena v w₀ r w → P w₀ → P w) (h₀ : P run.world) :
    P last.world ∧ ∀ m ∈ mishaps, m.axis ∈ vs ∧
      ∃ w₀, P w₀ ∧ Ending access graph arena m.axis w₀ (.error m.cause) m.world := by
  induction h with
  | done => exact ⟨h₀, fun m hmem => absurd hmem List.not_mem_nil⟩
  | wrote h _ ih =>
      obtain ⟨hlast, hm⟩ := ih (keeps _ _ _ _ (ending_recompute h).2 h₀)
      exact ⟨hlast, fun m hmem => ⟨List.mem_cons_of_mem _ (hm m hmem).1, (hm m hmem).2⟩⟩
  | skipped h _ _ ih =>
      have hend := (ending_recompute h).2
      obtain ⟨hlast, hm⟩ := ih (keeps _ _ _ _ hend h₀)
      refine ⟨hlast, List.forall_mem_cons.mpr ⟨⟨List.mem_cons_self, _, h₀, hend⟩, ?_⟩⟩
      exact fun m hmem => ⟨List.mem_cons_of_mem _ (hm m hmem).1, (hm m hmem).2⟩
  | stopped h _ =>
      have hend := (ending_recompute h).2
      exact ⟨keeps _ _ _ _ hend h₀,
        List.forall_mem_singleton.mpr ⟨List.mem_cons_self, _, h₀, hend⟩⟩
  | broken h _ =>
      have hend := (ending_recompute h).2
      exact ⟨keeps _ _ _ _ hend h₀,
        List.forall_mem_singleton.mpr ⟨List.mem_cons_self, _, h₀, hend⟩⟩

/-- A pass fails with the cause of a mishap. -/
theorem Pass.exists_mishap {failFast : Bool} {vs : List VirtAxis} {run last : Run S K σ}
    {mishaps : List (Mishap σ)} {r : Except Failure Nat} {e : Failure}
    (h : Pass access graph arena failFast update vs run mishaps r last) (hr : r = .error e) :
    ∃ m ∈ mishaps, m.cause = e := by
  induction h with
  | done => cases hr
  | @wrote v rest run next last mishaps r _ _ ih =>
      cases r with
      | ok n => cases hr
      | error e' =>
          cases hr
          exact ih rfl
  | skipped _ _ _ ih =>
      obtain ⟨m, hm, rfl⟩ := ih hr
      exact ⟨m, List.mem_cons_of_mem _ hm, rfl⟩
  | stopped _ _ =>
      cases hr
      exact ⟨_, List.mem_singleton_self _, rfl⟩
  | broken _ _ =>
      cases hr
      exact ⟨_, List.mem_singleton_self _, rfl⟩

theorem map_add_succ (r : Except Failure Nat) (written : Nat) :
    r.map (fun n => written + 1 + n) = (r.map (· + 1)).map fun n => written + n := by
  cases r with
  | error e => rfl
  | ok n => exact congrArg Except.ok (Nat.add_right_comm written 1 n)

/-- **Virtual axes one after another.**  Recomputing them is a pass. -/
theorem pass_of_recomputeAll {failFast : Bool} :
    ∀ {vs : List VirtAxis} {written : Nat} {run last : Run S K σ} {r : Except Failure Nat},
      (recomputeAll access graph arena failFast update vs written).outcome run = (r, last) →
      ∃ mishaps r', Pass access graph arena failFast update vs run mishaps r' last ∧
        r = r'.map fun n => written + n
  | [], written, run, last, r, h => by
      cases h
      exact ⟨[], _, .done, rfl⟩
  | v :: rest, written, run, last, r, h => by
      rw [recomputeAll, outcome_bind, outcome_attempt] at h
      rcases hv : (recompute access graph arena update v).outcome run with ⟨e | ⟨⟩, next⟩
      · rw [hv] at h
        by_cases hp : ∃ p, e = .propagation p
        · obtain ⟨p, rfl⟩ := hp
          simp only [andThen_ok, outcome_bind, outcome_count] at h
          cases failFast with
          | true =>
              simp only [if_true, outcome_bind, outcome_throw, andThen_error] at h
              cases h
              exact ⟨_, _, .stopped hv rfl, rfl⟩
          | false =>
              simp only [Bool.false_eq_true, if_false, outcome_bind, outcome_note,
                andThen_ok] at h
              obtain ⟨mishaps, r', hpass, hr⟩ := pass_of_recomputeAll h
              exact ⟨_, r', .skipped hv rfl hpass, hr⟩
        · have other : ∀ p, e ≠ .propagation p := fun p hep => hp ⟨p, hep⟩
          have hlast : (.error e, next) = (r, last) := by
            cases e with
            | propagation p => exact absurd rfl (other p)
            | _ => exact h
          cases hlast
          exact ⟨_, _, .broken hv other, rfl⟩
      · rw [hv] at h
        simp only [andThen_ok] at h
        obtain ⟨mishaps, r', hpass, rfl⟩ := pass_of_recomputeAll h
        exact ⟨mishaps, _, .wrote hv hpass, map_add_succ r' written⟩

/-! ### One update -/

/-- The running engine with one more update counted. -/
def received (run : Run S K σ) : Run S K σ :=
  { run with engine.stats.received := run.engine.stats.received + 1 }

/-- The number of virtual axes written, as far as the engine comes to know it. -/
def reported : Except Failure Nat → Nat
  | .ok n => n
  | .error _ => 0

/-- The running engine with these virtual axes counted as written. -/
def credited (n : Nat) (run : Run S K σ) : Run S K σ :=
  { run with engine.stats.written := run.engine.stats.written + n }

/-- **One update.**  It is ignored if the graph does not know its axis.  Otherwise it takes a pass
over the virtual axes downstream, and those that the pass reports are counted as written. -/
theorem handle_cases {run last : Run S K σ} {r : Except Failure Nat}
    (h : (handle access update).outcome run = (r, last)) :
    (run.engine.graph.realAxes.find? update.key = none ∧ r = .ok 0 ∧
      last.world = run.world ∧
      last.engine = { run.engine with
        stats.received := run.engine.stats.received + 1
        stats.ignored := run.engine.stats.ignored + 1 }) ∨
    ∃ real mishaps last', run.engine.graph.realAxes.find? update.key = some real ∧
      Pass access run.engine.graph run.engine.arena run.engine.failFast update real.downstream
        (received run) mishaps r last' ∧
      last = credited (reported r) last' := by
  rw [outcome_handle, handleWith, outcome_bind, outcome_count, andThen_ok] at h
  cases hf : run.engine.graph.realAxes.find? update.key with
  | none =>
      simp only [hf, outcome_bind, outcome_count, outcome_note, andThen_ok] at h
      cases h
      exact .inl ⟨rfl, rfl, rfl, rfl⟩
  | some real =>
      simp only [hf, outcome_bind] at h
      rcases hall : (recomputeAll access run.engine.graph run.engine.arena run.engine.failFast
        update real.downstream 0).outcome (received run) with ⟨r₁, last'⟩
      obtain ⟨mishaps, r', hpass, hr⟩ := pass_of_recomputeAll hall
      have hr' : r₁ = r' := by
        rw [hr]
        cases r' <;> simp [Except.map]
      subst hr'
      rw [received] at hall
      rw [hall] at h
      refine .inr ⟨real, mishaps, last', rfl, ?_⟩
      cases r₁ with
      | error e =>
          cases h
          exact ⟨hpass, rfl⟩
      | ok n =>
          cases h
          exact ⟨hpass, rfl⟩

/-- What goes wrong while the update is handled, and the result.  If the update is ignored, that is
nothing. -/
inductive Meets (access : DeviceAccess S K σ) (update : Update) (run : Run S K σ) :
    List (Mishap σ) → Except Failure Nat → Prop
  | ignored (h : run.engine.graph.realAxes.find? update.key = none) :
      Meets access update run [] (.ok 0)
  | taken {real : RealAxis S} {mishaps : List (Mishap σ)} {r : Except Failure Nat}
      {last : Run S K σ} (h : run.engine.graph.realAxes.find? update.key = some real)
      (pass : Pass access run.engine.graph run.engine.arena run.engine.failFast update
        real.downstream (received run) mishaps r last) : Meets access update run mishaps r

/-- An update fails with the cause of a mishap. -/
theorem Meets.exists_mishap {run : Run S K σ} {mishaps : List (Mishap σ)} {r : Except Failure Nat}
    {e : Failure} (h : Meets access update run mishaps r) (hr : r = .error e) :
    ∃ m ∈ mishaps, m.cause = e := by
  cases h with
  | ignored => cases hr
  | taken _ pass => exact pass.exists_mishap hr

theorem exists_meets (access : DeviceAccess S K σ) (update : Update) (run : Run S K σ) :
    ∃ mishaps, Meets access update run mishaps ((handle access update).outcome run).1 := by
  rcases h : (handle access update).outcome run with ⟨r, last⟩
  rcases handle_cases h with ⟨hf, rfl, -⟩ | ⟨real, mishaps, last', hf, hpass, -⟩
  · exact ⟨[], .ignored hf⟩
  · exact ⟨mishaps, .taken hf hpass⟩

end AxisMixer.Engine
