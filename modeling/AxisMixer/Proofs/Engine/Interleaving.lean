import AxisMixer.Proofs.Engine.Swapping

/-!
# Engine — graphs that are swapped in while an update is handled

`Engine.handle` is made move by move: it takes the engine, it reads a dependency, it writes a value,
it counts what came of it.  Between any two moves other threads may swap in graphs, and a device may
do so from inside a move that reads or writes it (`Engine.Course`).

The first move takes the engine as it is, with its graph and its outputs.  All moves behind it are
blind to the engine, so swaps between them change nothing of what they do (`Course.outcome_twins`),
and they change nothing of what the swaps do (`Course.engine_eq`).  Hence an update is handled as if
all swaps had come behind it (`handle_isolated`).

* `Step.moved`: a step behind its next move.
* `Course`: moves of a step, with swaps between them.
* `exchange`: a graph and its outputs are replaced together, or not at all.
* `latest?`: the swap whose graph and outputs the engine is left with.
-/

namespace AxisMixer.Engine

open Step

variable {S K σ α β : Type}

/-! ### One move -/

namespace Step

/-- What is left of the step behind its next move, and the running engine that the move leaves. -/
def moved : Step S K σ α → Run S K σ → Step S K σ α × Run S K σ
  | .done result, run => (.done result, run)
  | .next move rest, run => (rest (move run).1, (move run).2)

theorem outcome_moved (step : Step S K σ α) (run : Run S K σ) :
    (step.moved run).1.outcome (step.moved run).2 = step.outcome run := by
  cases step <;> rfl

variable {φ : Run S K σ → Run S K σ} {step : Step S K σ α}

theorem Through.moved (h : Through φ step) (run : Run S K σ) :
    step.moved (φ run) = ((step.moved run).1, φ (step.moved run).2) := by
  cases step with
  | done result => rfl
  | next move rest => rw [Step.moved, Step.moved, h.1]

/-- What is left of a blind step is blind. -/
theorem Blind.moved (h : Blind step) (run : Run S K σ) : Blind (step.moved run).1 := by
  cases step with
  | done result => exact h
  | next move rest => exact fun e log => (h e log).2 _

theorem Blind.engine_moved (h : Blind step) (run : Run S K σ) :
    (step.moved run).2.engine = { run.engine with stats := (step.moved run).2.engine.stats } := by
  rw [← run.within_anew, (h _ _).moved]
  rfl

/-- A move on the world alone takes no notice of the engine. -/
theorem blind_next_onWorld {f : σ → β × σ} {rest : β → Step S K σ α} :
    Blind (.next (onWorld f) rest) ↔ ∀ b, Blind (rest b) :=
  ⟨fun h b e log => (h e log).2 b, fun h e log => ⟨fun _ => rfl, fun b => h b e log⟩⟩

/-- It may as well be made in two parts. -/
theorem Blind.parted {f : σ → β × σ} {rest : β → Step S K σ α} (h : Blind (.next (onWorld f) rest))
    (before : σ → σ) (behind : σ → β × σ) :
    Blind (.next (onWorld fun w => ((), before w)) fun _ => .next (onWorld behind) rest) :=
  blind_next_onWorld.mpr fun _ => blind_next_onWorld.mpr (blind_next_onWorld.mp h)

end Step

/-! ### Engines that only differ in the graph -/

/-- Running engines in the same world and with the same statistics. -/
structure Twins (run₀ run : Run S K σ) : Prop where
  world : run₀.world = run.world
  stats : run₀.engine.stats = run.engine.stats

variable {run₀ run : Run S K σ}

/-- What takes no notice of the engine does the same to twins. -/
theorem Twins.of_within {γ : Type*} (h : Twins run₀ run) {f : Run S K σ → γ × Run S K σ}
    (hf : ∀ e log run, f (run.within e log) = ((f run).1, (f run).2.within e log)) :
    (f run₀).1 = (f run).1 ∧ Twins (f run₀).2 (f run).2 := by
  have hrun₀ : run.anew.within run₀.engine run₀.log = run₀ := by
    rw [Run.within, Run.anew, ← h.world]
    exact run₀.within_anew
  have htwin := hf run₀.engine run₀.log run.anew
  have hself := hf run.engine run.log run.anew
  rw [hrun₀] at htwin
  rw [run.within_anew] at hself
  rw [htwin, hself]
  exact ⟨rfl, rfl, congrArg (· + _) h.stats⟩

theorem Step.Blind.moved_twins {step : Step S K σ α} (h : Blind step) (ht : Twins run₀ run) :
    (step.moved run₀).1 = (step.moved run).1 ∧ Twins (step.moved run₀).2 (step.moved run).2 :=
  ht.of_within fun e log => (h e log).moved

theorem Step.Blind.outcome_twins {step : Step S K σ α} (h : Blind step) (ht : Twins run₀ run) :
    (step.outcome run₀).1 = (step.outcome run).1 ∧
      Twins (step.outcome run₀).2 (step.outcome run).2 :=
  ht.of_within h.outcome

/-! ### Swaps -/

/-- A graph and its outputs, to be swapped in. -/
abbrev Swap (S K : Type) := Graph S × OrderedMap String K

/-- The running engine behind the swap, be it accepted or rejected. -/
def Run.swapped (run : Run S K σ) (s : Swap S K) : Run S K σ := ((swap s.1 s.2).outcome run).2

/-- The running engine behind the swaps, one after another. -/
def Run.swappedAll (run : Run S K σ) (swaps : List (Swap S K)) : Run S K σ :=
  swaps.foldl Run.swapped run

/-- Every virtual device of the graph has an output. -/
def Swap.accepted (s : Swap S K) : Bool := (missingOutputs s.1 s.2).isEmpty

/-- The last of the swaps that are not rejected. -/
def latest? (swaps : List (Swap S K)) : Option (Swap S K) :=
  (swaps.filter Swap.accepted).getLast?

/-- The engine behind the swap: with the graph and its outputs, or as it is. -/
def exchange (engine : Engine S K) (s : Swap S K) : Engine S K :=
  match engine.swap? s.1 s.2 with
  | .ok next => next
  | .error _ => engine

theorem exchange_rejected (engine : Engine S K) {s : Swap S K} (h : s.accepted = false) :
    exchange engine s = engine := by
  rw [exchange, swap?, arenaOf]
  cases hm : missingOutputs s.1 s.2 with
  | nil =>
      rw [Swap.accepted, hm] at h
      cases h
  | cons name names => rfl

theorem exchange_accepted (engine : Engine S K) {s : Swap S K} (h : s.accepted = true) :
    ∃ fresh, create s.1 s.2 engine.failFast = .ok fresh ∧
      exchange engine s = { fresh with stats := engine.stats } := by
  rw [exchange, swap?, create, arenaOf, List.isEmpty_iff.mp h]
  exact ⟨_, rfl, rfl⟩

/-- A swap changes neither the statistics of the engine nor what it does about failures. -/
theorem exchange_keeps (engine : Engine S K) (s : Swap S K) :
    (exchange engine s).stats = engine.stats ∧
      (exchange engine s).failFast = engine.failFast := by
  rw [exchange, swap?]
  cases arenaOf s.1 s.2 <;> exact ⟨rfl, rfl⟩

theorem exchange_stats (engine : Engine S K) (stats : Stats) (s : Swap S K) :
    exchange { engine with stats } s = { exchange engine s with stats } := by
  simp only [exchange, swap?]
  cases arenaOf s.1 s.2 <;> rfl

theorem foldl_exchange_stats (engine : Engine S K) (stats : Stats) (swaps : List (Swap S K)) :
    swaps.foldl exchange { engine with stats } =
      { swaps.foldl exchange engine with stats } := by
  induction swaps generalizing engine with
  | nil => rfl
  | cons s rest ih => rw [List.foldl_cons, List.foldl_cons, exchange_stats, ih]

theorem exists_swapped (run : Run S K σ) (s : Swap S K) :
    ∃ log, run.swapped s = ⟨exchange run.engine s, run.world, log⟩ := by
  rw [Run.swapped, swap, outcome_once, exchange]
  cases run.engine.swap? s.1 s.2 <;> exact ⟨_, rfl⟩

/-- Swaps touch nothing but the engine. -/
theorem exists_swappedAll (run : Run S K σ) (swaps : List (Swap S K)) :
    ∃ log, run.swappedAll swaps = ⟨swaps.foldl exchange run.engine, run.world, log⟩ := by
  induction swaps generalizing run with
  | nil => exact ⟨run.log, rfl⟩
  | cons s rest ih =>
      obtain ⟨log, hs⟩ := exists_swapped run s
      rw [Run.swappedAll, List.foldl_cons, hs]
      exact ih _

/-- After some swaps the engine is the one that would be created for the last of them that was not
rejected, but for its statistics. -/
theorem foldl_exchange (engine : Engine S K) (swaps : List (Swap S K)) :
    match latest? swaps with
    | none => swaps.foldl exchange engine = engine
    | some (graph, outputs) =>
      ∃ fresh, create graph outputs engine.failFast = .ok fresh ∧
        swaps.foldl exchange engine = { fresh with stats := engine.stats } := by
  induction swaps generalizing engine with
  | nil => rfl
  | cons s rest ih =>
      have hrest := ih (exchange engine s)
      obtain ⟨hstats, hfailFast⟩ := exchange_keeps engine s
      rw [hstats, hfailFast, ← List.foldl_cons] at hrest
      cases hs : s.accepted with
      | false =>
          rw [latest?, List.filter_cons_of_neg (by simp [hs]), ← latest?]
          rwa [exchange_rejected engine hs] at hrest
      | true =>
          have hlatest : latest? (s :: rest) = some ((latest? rest).getD s) := by
            rw [latest?, List.filter_cons_of_pos hs, List.getLast?_cons, ← latest?]
          rw [hlatest]
          cases hr : latest? rest with
          | none =>
              rw [hr] at hrest
              rw [hrest]
              exact exchange_accepted engine hs
          | some other =>
              rw [hr] at hrest
              exact hrest

/-! ### Moves with swaps between them -/

/-- Moves of a step from one running engine to another, and these swaps between them. -/
inductive Course : Step S K σ α → Run S K σ → List (Swap S K) → Step S K σ α → Run S K σ → Prop
  | refl (p : Step S K σ α) (run : Run S K σ) : Course p run [] p run
  | moved {p p' : Step S K σ α} {run run' : Run S K σ} {swaps : List (Swap S K)}
      (t : Course (p.moved run).1 (p.moved run).2 swaps p' run') : Course p run swaps p' run'
  | swapped {p p' : Step S K σ α} {run run' : Run S K σ} {swaps : List (Swap S K)} (s : Swap S K)
      (t : Course p (run.swapped s) swaps p' run') : Course p run (s :: swaps) p' run'
  /-- A move on the world alone is made in two parts.  A swap from inside a read or a write comes
  between these. -/
  | parted {γ : Type} {f : σ → γ × σ} {rest : γ → Step S K σ α} {p' : Step S K σ α}
      {run run' : Run S K σ} {swaps : List (Swap S K)} (before : σ → σ) (behind : σ → γ × σ)
      (h : ∀ w, f w = behind (before w))
      (t : Course (.next (onWorld fun w => ((), before w)) fun _ => .next (onWorld behind) rest) run
        swaps p' run') : Course (.next (onWorld f) rest) run swaps p' run'

variable {p p' : Step S K σ α} {run' : Run S K σ} {swaps : List (Swap S K)}

/-- Left alone, a step is brought to its end. -/
theorem course_done (p : Step S K σ α) (run : Run S K σ) :
    Course p run [] (.done (p.outcome run).1) (p.outcome run).2 := by
  induction p generalizing run with
  | done result => exact .refl _ run
  | next move rest ih => exact .moved (ih _ _)

theorem Course.blind (h : Course p run swaps p' run') (hp : Blind p) : Blind p' := by
  induction h with
  | refl => exact hp
  | moved _ ih => exact ih (hp.moved _)
  | swapped _ _ ih => exact ih hp
  | parted before behind h _ ih => exact ih (hp.parted before behind)

/-- The moves do nothing to the graph and the outputs of the engine: those are what the swaps make
of them. -/
theorem Course.engine_eq (h : Course p run swaps p' run') (hp : Blind p) :
    run'.engine = { swaps.foldl exchange run.engine with stats := run'.engine.stats } := by
  induction h with
  | refl => rfl
  | @moved p p' run run' swaps _ ih =>
      have hrest := ih (hp.moved run)
      rwa [hp.engine_moved, foldl_exchange_stats] at hrest
  | @swapped p p' run run' swaps s _ ih =>
      obtain ⟨log, hs⟩ := exists_swapped run s
      rw [hs] at ih
      exact ih hp
  | parted before behind h _ ih => exact ih (hp.parted before behind)

/-- From wherever the moves have come to, the step comes to what it comes to without the swaps. -/
theorem Course.outcome_twins (h : Course p run swaps p' run') (hp : Blind p)
    (ht : Twins run₀ run) :
    ∃ run₀', Twins run₀' run' ∧ p'.outcome run₀' = p.outcome run₀ := by
  induction h generalizing run₀ with
  | refl => exact ⟨run₀, ht, rfl⟩
  | @moved p p' run run' swaps _ ih =>
      obtain ⟨hleft, ht'⟩ := hp.moved_twins ht
      obtain ⟨run₀', ht'', ho⟩ := ih (hp.moved run) ht'
      exact ⟨run₀', ht'', by rw [ho, ← hleft, outcome_moved]⟩
  | @swapped p p' run run' swaps s _ ih =>
      obtain ⟨log, hs⟩ := exists_swapped run s
      refine ih hp ⟨?_, ?_⟩ <;> rw [hs]
      · exact ht.world
      · exact ht.stats.trans (exchange_keeps run.engine s).1.symm
  | @parted γ f rest p' run run' swaps before behind h _ ih =>
      obtain ⟨run₀', ht', ho⟩ := ih (hp.parted before behind) ht
      refine ⟨run₀', ht', ho.trans ?_⟩
      simp only [outcome_next, onWorld, h]

/-! ### One update -/

/-- **An update is handled as if all swaps came behind it.**  Its first move is made in `run`, and
from then on swaps come between its moves and from inside them.  Wherever it stands, it comes to
what it would come to if all these swaps were made when it is done: its result, what it did to the
devices, the statistics and the engine are the same.  At each moment the engine has the graph and
the outputs of the last swap that was not rejected, to be used for the next update. -/
theorem handle_isolated (access : DeviceAccess S K σ) (update : Update)
    (run : Run S K (Recorded S K σ)) {mid : Run S K (Recorded S K σ)} {swaps : List (Swap S K)}
    {p : Step S K (Recorded S K σ) Nat}
    (h : Course ((handle access.recorded update).moved run).1
      ((handle access.recorded update).moved run).2 swaps p mid) :
    let o := (handle access.recorded update).outcome run
    let last := o.2.swappedAll swaps
    ((p.outcome mid).1 = o.1 ∧ (p.outcome mid).2.world = last.world ∧
      (p.outcome mid).2.engine = last.engine) ∧
    match latest? swaps with
    | none => mid.engine = { run.engine with stats := mid.engine.stats }
    | some (graph, outputs) =>
      ∃ fresh, create graph outputs run.engine.failFast = .ok fresh ∧
        mid.engine = { fresh with stats := mid.engine.stats } := by
  intro o last
  have hblind : Blind ((handle access.recorded update).moved run).1 :=
    blind_handleWith access.recorded update run.engine
  have hengine : mid.engine = { swaps.foldl exchange run.engine with stats := mid.engine.stats } :=
    h.engine_eq hblind
  refine ⟨?_, ?_⟩
  · obtain ⟨mid₀, ht, ho⟩ := h.outcome_twins hblind ⟨rfl, rfl⟩
    rw [outcome_moved] at ho
    -- the moves to come do with the swaps before them what they do without
    obtain ⟨hresult, hworld, hstats⟩ := (h.blind hblind).outcome_twins ht
    rw [ho] at hresult hworld hstats
    obtain ⟨log, hlast⟩ := exists_swappedAll o.2 swaps
    have halone : o.2.engine = { run.engine with stats := o.2.engine.stats } :=
      (blind_handleWith access.recorded update run.engine).engine run
    refine ⟨hresult.symm, ?_, ?_⟩
    · exact hworld.symm.trans (congrArg Run.world hlast).symm
    · calc (p.outcome mid).2.engine
        _ = { mid.engine with stats := (p.outcome mid).2.engine.stats } :=
            (h.blind hblind).engine mid
        _ = { swaps.foldl exchange run.engine with stats := o.2.engine.stats } := by
            rw [hengine, ← hstats]
        _ = swaps.foldl exchange { run.engine with stats := o.2.engine.stats } :=
            (foldl_exchange_stats ..).symm
        _ = swaps.foldl exchange o.2.engine :=
            congrArg (List.foldl exchange · swaps) halone.symm
        _ = last.engine := congrArg Run.engine hlast.symm
  · have hlatest := foldl_exchange run.engine swaps
    split <;> rename_i hs <;> rw [hs] at hlatest
    · rwa [hlatest] at hengine
    · obtain ⟨fresh, hfresh, hafter⟩ := hlatest
      rw [hafter] at hengine
      exact ⟨fresh, hfresh, hengine⟩

/-- Behind the first reading the graph is swapped in once more without outputs, which is rejected,
and from inside the first write with another output.  All writes go to the first output, and the
engine is left with the other one. -/
theorem handle_isolated_other :
    ∃ graph engine,
      (Graph.build ⟨id, fun _ _ => true⟩ (.ofList [("A", "A"), ("B", "B")])
        (.ofList [("out", Rig.quotients)])).1 = .ok graph ∧
      create graph (.ofList [("out", "out")]) false = .ok engine ∧
      let handling := (handle Rig.looped.access.recorded ⟨⟨"A", .x⟩, 7⟩).moved
        ⟨engine, ⟨⟨fun _ => 0, []⟩, []⟩, #[]⟩
      ∃ result mid,
        Course handling.1 handling.2 [(graph, .empty), (graph, .ofList [("out", "other")])]
          (.done result) mid ∧
        mid.world.state.acts = [.read "B" .y, .read "B" .x, .wrote "out" .y 7, .read "B" .y,
          .wrote "out" .rx 1, .read "B" .z] ∧
        mid.engine.arena = ["other"] := by
  obtain ⟨graph, hg⟩ : ∃ graph, (Graph.build ⟨id, fun _ _ => true⟩
      (.ofList [("A", "A"), ("B", "B")]) (.ofList [("out", Rig.quotients)])).1 = .ok graph :=
    ⟨_, rfl⟩
  obtain ⟨engine, he⟩ : ∃ engine, create graph (.ofList [("out", "out")]) false = .ok engine := by
    cases hg
    exact ⟨_, rfl⟩
  refine ⟨graph, engine, hg, he, ?_⟩
  intro handling
  obtain ⟨result, mid, hcourse⟩ : ∃ result mid, Course handling.1 handling.2
      [(graph, .empty), (graph, .ofList [("out", "other")])] (.done result) mid := by
    cases hg
    cases he
    exact ⟨_, _, .moved (.moved (.swapped _ (.moved (.moved (.moved (.moved (.parted id _
      (fun _ => rfl) (.moved (.swapped _ (course_done _ _))))))))))⟩
  obtain ⟨⟨-, hworld, hengine⟩, -⟩ := handle_isolated Rig.looped.access ⟨⟨"A", .x⟩, 7⟩
    ⟨engine, ⟨⟨fun _ => 0, []⟩, []⟩, #[]⟩ hcourse
  rw [outcome_done] at hworld hengine
  refine ⟨result, mid, hcourse, ?_, ?_⟩
  · rw [hworld]
    cases hg
    cases he
    decide +kernel
  · rw [hengine]
    cases hg
    cases he
    decide +kernel

end AxisMixer.Engine
