import AxisMixer.Proofs.Engine.Settling

/-!
# Engine — a virtual axis does not depend on the others

Two engines run over the same physical devices, each with a configuration of its own.  If both
configurations have an axis governed by one expression, this axis takes the same values in both
runs.  What else the configurations say makes no difference, nor does it whether the other axes
are read, evaluated and written or fail at it.

Not even the devices have to be in the same states.  It is enough that the states look alike to the
axis (`Rig.Alike`): the dependencies of its expression read the same, and its outputs take the same
writes.

What an update writes on the axis is its `answer`, in which the other axes do not occur.  They come
before and after it while the update is served, but they write elsewhere, and what they change
cannot be told by reading or writing (`written_serve`).

* `Rig.Hosts`: a configuration with an axis governed by an expression, and an output for it.
* `Rig.live`: a running engine while updates come in and the devices change.
* `Rig.written_live`: what two running engines write on the axis.
-/

namespace AxisMixer

namespace Rig

variable {S K σ : Type}

/-! ### States that look alike -/

/-- No reading and no writing tells the states apart. -/
structure Indistinct (rig : Rig S K σ) (st st' : σ) : Prop where
  reads : ∀ source axis, rig.read source axis st' = rig.read source axis st
  writes : ∀ output axis n, (rig.write output axis n st').isOk = (rig.write output axis n st).isOk

/-- Writing changes nothing that reading or writing could tell. -/
def Inert (rig : Rig S K σ) : Prop :=
  ∀ output axis n st st', rig.write output axis n st = .ok st' → rig.Indistinct st st'

/-- The states look alike to an axis governed by `e`, on `output₁` in the one state and on
`output₂` in the other. -/
structure Alike (rig : Rig S K σ) (sources : OrderedMap String S) (e : Expr) (axis : Axis)
    (output₁ output₂ : K) (st₁ st₂ : σ) : Prop where
  reads : ∀ k ∈ e.dependencies, rig.look sources k st₁ = rig.look sources k st₂
  writes : ∀ n, (rig.write output₁ axis n st₁).isOk = (rig.write output₂ axis n st₂).isOk

section Alike

variable {rig : Rig S K σ} {sources : OrderedMap String S}

theorem Indistinct.refl (st : σ) : rig.Indistinct st st := ⟨fun _ _ => rfl, fun _ _ _ => rfl⟩

theorem Indistinct.trans {st st' st'' : σ} (h : rig.Indistinct st st')
    (h' : rig.Indistinct st' st'') : rig.Indistinct st st'' where
  reads source axis := (h'.reads source axis).trans (h.reads source axis)
  writes output axis n := (h'.writes output axis n).trans (h.writes output axis n)

theorem Indistinct.look_eq {st st' : σ} (h : rig.Indistinct st st') (k : AxisKey) :
    rig.look sources k st' = rig.look sources k st := by
  rw [look, look]
  cases sources.find? k.device with
  | none => rfl
  | some source => exact h.reads source k.axis

theorem Indistinct.alike {st st' : σ} (h : rig.Indistinct st st') (e : Expr) (axis : Axis)
    (output : K) : rig.Alike sources e axis output output st' st where
  reads k _ := h.look_eq k
  writes n := h.writes output axis n

/-- Changes that cannot be told leave the states alike. -/
theorem Alike.of_indistinct {e : Expr} {axis : Axis} {output₁ output₂ : K} {st₁ st₂ st₁' st₂' : σ}
    (h : rig.Alike sources e axis output₁ output₂ st₁ st₂) (h₁ : rig.Indistinct st₁ st₁')
    (h₂ : rig.Indistinct st₂ st₂') : rig.Alike sources e axis output₁ output₂ st₁' st₂' where
  reads k hk := by rw [h₁.look_eq, h₂.look_eq, h.reads k hk]
  writes n := by rw [h₁.writes, h₂.writes, h.writes n]

end Alike

/-! ### The answer to an update -/

section Answer

variable (rig : Rig S K σ) (sources : OrderedMap String S) (update : Update)

/-- The values that the update gives the virtual axis: the value of its expression, if it has one
and the output takes it. -/
def answer (output : K) (v : VirtAxis) (st : σ) : List Int :=
  match rig.result sources update st v with
  | .ok n => if (rig.write output v.key.axis n st).isOk then [n] else []
  | .error _ => []

variable {rig sources}

/-- The value of a virtual axis comes from its expression and the readings of its dependencies. -/
theorem result_congr {v w : VirtAxis} {st st' : σ} (hexpr : v.expr = w.expr)
    (h : ∀ k ∈ v.dependencies, rig.look sources k st = rig.look sources k st') :
    rig.result sources update st v = rig.result sources update st' w := by
  have hdeps : w.dependencies = v.dependencies := by
    rw [VirtAxis.dependencies, VirtAxis.dependencies, hexpr]
  have hfault : (awaited update v).map (rig.fault? sources st) =
      (awaited update v).map (rig.fault? sources st') := by
    refine List.map_congr_left fun k hk => ?_
    rw [fault?, fault?, h k (List.mem_of_mem_filter hk)]
  have hfirst : ∀ st, (awaited update v).findSome? (rig.fault? sources st) =
      ((awaited update v).map (rig.fault? sources st)).findSome? id :=
    fun _ => by rw [List.findSome?_map, Function.id_comp]
  have hseen : v.expr.evaluate (rig.seen sources update st v) =
      v.expr.evaluate (rig.seen sources update st' w) := by
    refine Expr.evaluate_congr fun k hk => ?_
    change k ∈ v.dependencies at hk
    simp only [seen, hdeps, h k hk]
  have hawaited : awaited update w = awaited update v := by rw [awaited, awaited, hdeps]
  rw [result, result, hawaited, hfirst, hfirst, hfault, hseen, hexpr]

theorem answer_congr {v w : VirtAxis} {output₁ output₂ : K} {st₁ st₂ : σ} (hexpr : v.expr = w.expr)
    (haxis : v.key.axis = w.key.axis)
    (h : rig.Alike sources v.expr v.key.axis output₁ output₂ st₁ st₂) :
    rig.answer sources update output₁ v st₁ = rig.answer sources update output₂ w st₂ := by
  rw [answer, answer, result_congr update hexpr h.reads, ← haxis]
  simp only [h.writes]

end Answer

/-! ### What is written on an axis -/

section Serve

variable [DecidableEq K] {output : K} {axis : Axis}

/-- The values that the axis of the output was given, the latest one last. -/
def written (output : K) (axis : Axis) (acts : List (Act S K)) : List Int :=
  acts.filterMap (Act.writes output axis)

theorem written_append (acts later : List (Act S K)) :
    written output axis (acts ++ later) = written output axis acts ++ written output axis later :=
  List.filterMap_append

theorem written_eq_nil {acts : List (Act S K)} :
    written output axis acts = [] ↔ lastWritten output axis acts = none := by
  rw [written, List.filterMap_eq_nil_iff, lastWritten, List.findSome?_eq_none_iff]
  simp only [List.mem_reverse]

variable {rig : Rig S K σ} {sources : OrderedMap String S} {outputs : OrderedMap String K}
  (update : Update)

/-- Serving the virtual axis of this place writes its answer there. -/
theorem written_serveAxis {v : VirtAxis} (ho : WritesTo outputs v output axis) (st : σ) :
    written output axis (rig.serveAxis sources outputs update st v).1 =
      rig.answer sources update output v st := by
  have hreads : written output axis (rig.reads sources st (awaited update v)) = [] :=
    written_eq_nil.mpr (rig.lastWritten_reads sources st _)
  obtain ⟨hfind, rfl⟩ := ho
  rw [serveAxis, answer]
  cases rig.result sources update st v with
  | error e => exact hreads
  | ok n =>
      simp only [put, hfind, actOn, Option.map_some, Option.toList_some]
      cases rig.write output v.key.axis n st with
      | error e =>
          rw [written_append, hreads]
          rfl
      | ok st' =>
          have hwrote : written (S := S) output v.key.axis [.wrote output v.key.axis n] = [n] := by
            simp [written, Act.writes]
          rw [written_append, hreads, hwrote]
          rfl

omit [DecidableEq K] in
theorem indistinct_serveAxis (hr : rig.Inert) {v : VirtAxis} {st st' : σ} {acts : List (Act S K)}
    (h : rig.serveAxis sources outputs update st v = (acts, .ok st')) : rig.Indistinct st st' := by
  rw [serveAxis] at h
  split at h
  · cases h
  · next n _ =>
      split at h
      · next hput =>
          cases h
          rw [put] at hput
          split at hput
          · next output _ => exact hr output v.key.axis n st st' hput
          · cases hput
      · cases h

omit [DecidableEq K] in
theorem indistinct_serve (hr : rig.Inert) :
    ∀ (vs : List VirtAxis) (st : σ),
      rig.Indistinct st (rig.serve sources outputs update vs st).state
  | [], st => .refl st
  | v :: rest, st => by
      rw [serve]
      rcases hs : rig.serveAxis sources outputs update st v with ⟨acts, e | st'⟩
      · exact indistinct_serve hr rest st
      · exact (indistinct_serveAxis update hr hs).trans (indistinct_serve hr rest st')

/-- **The service of an axis.**  Among virtual axes that write to different places, the answer of
each one is written at its place, whatever the others do. -/
theorem written_serve (hr : rig.Inert) {v : VirtAxis} (ho : WritesTo outputs v output axis) :
    ∀ {vs : List VirtAxis}, vs.Nodup → (∀ w ∈ vs, WritesTo outputs w output axis → w = v) →
      ∀ st : σ, written output axis (rig.serve sources outputs update vs st).acts =
        if v ∈ vs then rig.answer sources update output v st else []
  | [], _, _, _ => rfl
  | w :: rest, hnd, hsep, st => by
      obtain ⟨hw, hnd⟩ := List.nodup_cons.mp hnd
      have ih := written_serve hr ho hnd fun w hw => hsep w (List.mem_cons_of_mem _ hw)
      -- `w` writes its answer if it is `v`, and nothing here otherwise
      have hhead : written output axis (rig.serveAxis sources outputs update st w).1 =
          if w = v then rig.answer sources update output v st else [] := by
        by_cases e : w = v
        · rw [if_pos e, e, written_serveAxis update ho]
        · rw [if_neg e, written_eq_nil]
          exact rig.lastWritten_serveAxis sources update
            (fun ht => e (hsep w List.mem_cons_self ht)) st
      -- what `w` leaves looks to `v` as before
      have hlater : ∀ st', rig.Indistinct st st' →
          rig.answer sources update output v st' = rig.answer sources update output v st :=
        fun st' h => answer_congr update rfl rfl (h.alike _ _ output)
      have hsum : ∀ st', rig.Indistinct st st' →
          (if w = v then rig.answer sources update output v st else []) ++
              (if v ∈ rest then rig.answer sources update output v st' else []) =
            if v ∈ w :: rest then rig.answer sources update output v st else [] := by
        intro st' h
        rw [hlater st' h]
        by_cases e : w = v
        · subst e
          simp [hw]
        · simp [e, Ne.symm e]
      rw [serve]
      rcases hs : rig.serveAxis sources outputs update st w with ⟨acts, e | st'⟩
      · rw [hs] at hhead
        simp only [written_append, hhead, ih]
        exact hsum st (.refl st)
      · rw [hs] at hhead
        simp only [written_append, hhead, ih]
        exact hsum st' (indistinct_serveAxis update hr hs)

end Serve

/-! ### One axis of one configuration -/

/-- An engine with an axis called `key`, which is governed by `e`.  Its output belongs to the device
of that name and to no other. -/
structure Hosts (view : SourceView S) (sources : OrderedMap String S)
    (virtual : OrderedMap String Output) (graph : Graph S) (outputs : OrderedMap String K)
    (arena : List K) (key : AxisKey) (e : Expr) (output : K) : Prop where
  built : (Graph.build view sources virtual).1 = .ok graph
  wired : Engine.arenaOf graph outputs = .ok arena
  governed : ∃ device rule, virtual.find? key.device = some device ∧
    device.axes.find? key.axis = some rule ∧ rule.expr = e
  found : outputs.find? key.device = some output
  own : ∀ name, outputs.find? name = some output → name = key.device

section Hosts

variable {rig : Rig S K σ} {view : SourceView S} {sources : OrderedMap String S}
  {virtual : OrderedMap String Output} {graph : Graph S} {outputs : OrderedMap String K}
  {arena : List K} {key : AxisKey} {e : Expr} {output : K}

theorem Hosts.exists_axis (h : Hosts view sources virtual graph outputs arena key e output) :
    ∃ v ∈ Graph.axesOfAll virtual, v.key = key ∧ v.expr = e := by
  obtain ⟨device, rule, hdevice, hrule, he⟩ := h.governed
  rw [OrderedMap.find?_eq_some_iff] at hdevice hrule
  obtain ⟨i, hi⟩ := List.mem_iff_getElem?.mp hdevice
  refine ⟨⟨i, ⟨key.device, key.axis⟩, rule⟩, ?_, rfl, he⟩
  exact List.mem_flatMap.mpr ⟨((key.device, device), i), List.mem_zipIdx_iff_getElem?.mpr hi,
    List.mem_map.mpr ⟨(key.axis, rule), hrule, rfl⟩⟩

variable [DecidableEq K]

/-- **One update.**  It leaves the engine with its graph and its outputs, the devices in a state
that looks as before, and on the axis its answer, if the expression mentions the axis of the
update. -/
theorem Hosts.handle (h : Hosts view sources virtual graph outputs arena key e output)
    (hr : rig.Inert) {v : VirtAxis} (hv : v ∈ Graph.axesOfAll virtual) (hkey : v.key = key)
    (update : Update) (stats : Stats) (world : World S K σ) (log : Log) :
    ∃ stats' world' log',
      ((Engine.handle rig.access update).outcome ⟨⟨graph, arena, false, stats⟩, world, log⟩).2 =
        ⟨⟨graph, arena, false, stats'⟩, world', log'⟩ ∧
      rig.Indistinct world.state world'.state ∧
      written output key.axis world'.acts = written output key.axis world.acts ++
        if update.key ∈ v.dependencies then rig.answer sources update output v world.state
        else [] := by
  subst hkey
  obtain ⟨log', hrun⟩ := rig.outcome_handle update h.built h.wired stats world log
  refine ⟨_, _, _, congrArg Prod.snd hrun, indistinct_serve update hr _ _, ?_⟩
  have hsep : ∀ w ∈ Graph.dependents virtual update.key,
      WritesTo outputs w output v.key.axis → w = v := by
    intro w hw hwt
    refine Graph.eq_of_key_eq (Graph.mem_dependents.mp hw).1 hv ?_
    rw [AxisKey.mk.injEq]
    exact ⟨h.own _ hwt.1, hwt.2⟩
  simp only [written_append, written_serve update hr ⟨h.found, rfl⟩
    (Graph.nodup_dependents virtual update.key) hsep, Graph.mem_dependents, hv, true_and]

end Hosts

/-! ### Two runs -/

/-- What may happen to a running engine. -/
inductive Happening (σ : Type) where
  /-- The devices come to be in another state: values change, reading or writing starts or ceases
  to fail. -/
  | turn (st : σ)
  /-- The engine is handed an update. -/
  | update (u : Update)

/-- The running engine when all of this has happened. -/
def live (rig : Rig S K σ) :
    List (Happening σ) → Engine.Run S K (World S K σ) → Engine.Run S K (World S K σ)
  | [], run => run
  | .turn st :: rest, run => live rig rest { run with world.state := st }
  | .update u :: rest, run => live rig rest ((Engine.handle rig.access u).outcome run).2

/-- What happens looks alike to the axis: the same update, or states that do. -/
inductive Happening.Alike (rig : Rig S K σ) (sources : OrderedMap String S) (e : Expr) (axis : Axis)
    (output₁ output₂ : K) : Happening σ → Happening σ → Prop
  | turn {st₁ st₂ : σ} (h : rig.Alike sources e axis output₁ output₂ st₁ st₂) :
      Happening.Alike rig sources e axis output₁ output₂ (.turn st₁) (.turn st₂)
  | update (u : Update) : Happening.Alike rig sources e axis output₁ output₂ (.update u) (.update u)

section TwoRuns

variable [DecidableEq K] {rig : Rig S K σ} {view : SourceView S} {sources : OrderedMap String S}
  {virtual₁ virtual₂ : OrderedMap String Output} {graph₁ graph₂ : Graph S}
  {outputs₁ outputs₂ : OrderedMap String K} {arena₁ arena₂ : List K} {key : AxisKey} {e : Expr}
  {output₁ output₂ : K} {history₁ history₂ : List (Happening σ)}

/-- The axis stays in step in two runs. -/
theorem written_live_of_worlds (hr : rig.Inert)
    (h₁ : Hosts view sources virtual₁ graph₁ outputs₁ arena₁ key e output₁)
    (h₂ : Hosts view sources virtual₂ graph₂ outputs₂ arena₂ key e output₂)
    (hh : List.Forall₂ (Happening.Alike rig sources e key.axis output₁ output₂) history₁ history₂) :
    ∀ {stats₁ stats₂ : Stats} {world₁ world₂ : World S K σ} {log₁ log₂ : Log},
      rig.Alike sources e key.axis output₁ output₂ world₁.state world₂.state →
      written output₁ key.axis world₁.acts = written output₂ key.axis world₂.acts →
      written output₁ key.axis
          (rig.live history₁ ⟨⟨graph₁, arena₁, false, stats₁⟩, world₁, log₁⟩).world.acts =
        written output₂ key.axis
          (rig.live history₂ ⟨⟨graph₂, arena₂, false, stats₂⟩, world₂, log₂⟩).world.acts := by
  obtain ⟨v₁, hv₁, hkey₁, hexpr₁⟩ := h₁.exists_axis
  obtain ⟨v₂, hv₂, hkey₂, hexpr₂⟩ := h₂.exists_axis
  induction hh with
  | nil => exact fun _ hw => hw
  | cons hx _ ih =>
      intro stats₁ stats₂ world₁ world₂ log₁ log₂ hst hw
      cases hx with
      | turn hst' => exact ih hst' hw
      | update u =>
          obtain ⟨stats₁', world₁', log₁', hrun₁, hstate₁, hw₁⟩ :=
            h₁.handle hr hv₁ hkey₁ u stats₁ world₁ log₁
          obtain ⟨stats₂', world₂', log₂', hrun₂, hstate₂, hw₂⟩ :=
            h₂.handle hr hv₂ hkey₂ u stats₂ world₂ log₂
          rw [live, live, hrun₁, hrun₂]
          refine ih (hst.of_indistinct hstate₁ hstate₂) ?_
          -- both expressions mention the axis of the update or neither does, and the answers agree
          have hdeps : v₁.dependencies = v₂.dependencies := by
            rw [VirtAxis.dependencies, VirtAxis.dependencies, hexpr₁, hexpr₂]
          have hanswer : rig.answer sources u output₁ v₁ world₁.state =
              rig.answer sources u output₂ v₂ world₂.state :=
            answer_congr u (hexpr₁.trans hexpr₂.symm) (by rw [hkey₁, hkey₂])
              (by rwa [hexpr₁, hkey₁])
          rw [hw₁, hw₂, hw, hdeps, hanswer]

/-- **Virtual axes do not interfere.**  Two engines with an axis governed by one expression run
over the same physical devices.  As long as what happens looks alike to the axis, it is given the
same values in the same order.  Everything else may differ: the other virtual devices and axes, the
states of the devices they depend on, and the writes they are refused. -/
theorem written_live (hr : rig.Inert)
    (h₁ : Hosts view sources virtual₁ graph₁ outputs₁ arena₁ key e output₁)
    (h₂ : Hosts view sources virtual₂ graph₂ outputs₂ arena₂ key e output₂) {st₁ st₂ : σ}
    (hst : rig.Alike sources e key.axis output₁ output₂ st₁ st₂)
    (hh : List.Forall₂ (Happening.Alike rig sources e key.axis output₁ output₂) history₁ history₂)
    (stats₁ stats₂ : Stats) (log₁ log₂ : Log) :
    written output₁ key.axis
        (rig.live history₁ ⟨⟨graph₁, arena₁, false, stats₁⟩, ⟨st₁, []⟩, log₁⟩).world.acts =
      written output₂ key.axis
        (rig.live history₂ ⟨⟨graph₂, arena₂, false, stats₂⟩, ⟨st₂, []⟩, log₂⟩).world.acts :=
  written_live_of_worlds hr h₁ h₂ hh hst rfl

end TwoRuns

/-- Devices with the values listed; reading any other axis fails, and so does writing the axis
`z`. -/
def listed : Rig String String (List (AxisKey × Int)) where
  read source axis st :=
    match OrderedMap.lookup ⟨source, axis⟩ st with
    | some n => .ok n
    | none => .error (.readFailed ⟨source, axis⟩ "")
  write output axis _ st := if axis = .z then .error (.writeFailed ⟨output, axis⟩ "") else .ok st

theorem inert_listed : listed.Inert := by
  intro output axis n st st' h
  simp only [listed] at h
  split at h
  · cases h
  · cases h
    exact .refl _

/-- The axis `A:X / B:X`. -/
def ratio : Rule := ruleOf (.binary .div (.ref ⟨"A", .x⟩) (.ref ⟨"B", .x⟩))

/-- The ratio alone. -/
def alone : OrderedMap String Output := .ofList [("out", ⟨.ofList [(.x, ratio)], "", 0, 0⟩)]

/-- The graph of the ratio alone. -/
def aloneGraph : Graph String :=
  let v : VirtAxis := ⟨0, ⟨"out", .x⟩, ratio⟩
  { sources := .ofList [("A", "A"), ("B", "B"), ("C", "C")]
    devices := ["out"]
    virtAxes := [v]
    realAxes := .ofList [(⟨"A", .x⟩, ⟨"A", .x, [v]⟩), (⟨"B", .x⟩, ⟨"B", .x, [v]⟩)] }

/-- The ratio among axes that cannot be read, have no value or cannot be written. -/
def crowded : OrderedMap String Output :=
  .ofList [
    ("first", ⟨.ofList [(.x, ruleOf (.binary .div (.ref ⟨"A", .x⟩) (.lit 0)))], "", 0, 0⟩),
    ("out", ⟨.ofList [(.y, ruleOf (.binary .add (.ref ⟨"A", .x⟩) (.ref ⟨"C", .x⟩))), (.z, ratio),
      (.x, ratio)], "", 0, 0⟩)]

/-- `A:X` becomes 6 and later 8; `B:X` is 3, then cannot be read, and then is 2. -/
def course (others : List (AxisKey × Int)) : List (Happening (List (AxisKey × Int))) :=
  [.turn ((⟨"B", .x⟩, 3) :: others), .update ⟨⟨"A", .x⟩, 6⟩, .turn others, .update ⟨⟨"A", .x⟩, 8⟩,
    .turn ((⟨"B", .x⟩, 2) :: others), .update ⟨⟨"A", .x⟩, 8⟩]

/-- To the ratio all states look alike in which `A:X` and `B:X` read the same. -/
theorem alike_listed {st₁ st₂ : List (AxisKey × Int)}
    (hA : OrderedMap.lookup ⟨"A", .x⟩ st₁ = OrderedMap.lookup ⟨"A", .x⟩ st₂)
    (hB : OrderedMap.lookup ⟨"B", .x⟩ st₁ = OrderedMap.lookup ⟨"B", .x⟩ st₂) :
    listed.Alike (.ofList [("A", "A"), ("B", "B"), ("C", "C")]) ratio.expr .x "out" "out" st₁ st₂
    where
  reads k hk := by
    change k ∈ [⟨"A", .x⟩, ⟨"B", .x⟩] at hk
    have hread : ∀ name, OrderedMap.lookup ⟨name, .x⟩ st₁ = OrderedMap.lookup ⟨name, .x⟩ st₂ →
        listed.read name .x st₁ = listed.read name .x st₂ := by
      intro name h
      simp only [listed, h]
    rcases List.mem_pair.mp hk with rfl | rfl
    · exact hread "A" hA
    · exact hread "B" hB
  writes _ := rfl

/-- Alone, with `C:X` to be read, and among the others, without it, the ratio is given 2 and 4. -/
theorem written_live_crowded :
    ∃ graph arena,
      (Graph.build ⟨id, fun _ _ => true⟩ (.ofList [("A", "A"), ("B", "B"), ("C", "C")]) crowded).1 =
        .ok graph ∧
      Engine.arenaOf graph (.ofList [("out", "out"), ("first", "first")]) = .ok arena ∧
      written "out" .x (listed.live (course [])
          ⟨⟨graph, arena, false, {}⟩, ⟨[], []⟩, #[]⟩).world.acts = [2, 4] := by
  obtain ⟨graph, arena, hg, ha⟩ : ∃ graph arena,
      (Graph.build ⟨id, fun _ _ => true⟩ (.ofList [("A", "A"), ("B", "B"), ("C", "C")]) crowded).1 =
        .ok graph ∧
      Engine.arenaOf graph (.ofList [("out", "out"), ("first", "first")]) = .ok arena :=
    ⟨_, _, rfl, rfl⟩
  have hown : ∀ name, OrderedMap.find? (.ofList [("out", "out"), ("first", "first")]) name =
      some "out" → name = "out" := by
    intro name h
    change (if "out" = name then some "out" else if "first" = name then some "first" else none) =
      some "out" at h
    grind
  have h₁ : Hosts ⟨id, fun _ _ => true⟩ (.ofList [("A", "A"), ("B", "B"), ("C", "C")]) alone
      aloneGraph (.ofList [("out", "out"), ("first", "first")]) ["out"] ⟨"out", .x⟩ ratio.expr
      "out" :=
    ⟨rfl, rfl, ⟨_, _, rfl, rfl, rfl⟩, rfl, hown⟩
  have h₂ : Hosts ⟨id, fun _ _ => true⟩ (.ofList [("A", "A"), ("B", "B"), ("C", "C")]) crowded
      graph (.ofList [("out", "out"), ("first", "first")]) arena ⟨"out", .x⟩ ratio.expr "out" :=
    ⟨hg, ha, ⟨_, _, rfl, rfl, rfl⟩, rfl, hown⟩
  have hst : listed.Alike (.ofList [("A", "A"), ("B", "B"), ("C", "C")]) ratio.expr .x "out" "out"
      [] [] :=
    alike_listed rfl rfl
  have hh : List.Forall₂ (Happening.Alike listed (.ofList [("A", "A"), ("B", "B"), ("C", "C")])
      ratio.expr .x "out" "out") (course [(⟨"C", .x⟩, 1)]) (course []) :=
    .cons (.turn (alike_listed rfl rfl)) (.cons (.update _) (.cons (.turn (alike_listed rfl rfl))
      (.cons (.update _) (.cons (.turn (alike_listed rfl rfl)) (.cons (.update _) .nil)))))
  have h := written_live inert_listed h₁ h₂ hst hh {} {} #[] #[]
  refine ⟨graph, arena, hg, ha, h.symm.trans ?_⟩
  decide +kernel

end Rig

end AxisMixer
