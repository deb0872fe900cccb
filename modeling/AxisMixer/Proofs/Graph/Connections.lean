import Mathlib.Data.List.Nodup
import AxisMixer.Graph
import AxisMixer.Proofs.Expr.Dependencies

/-!
# The dependency graph — a physical axis leads to the virtual axes that mention it

`dependents virtual k` are the virtual axes of a configuration whose expressions mention `k`, in
the order of the configuration.  A built graph leads from `k` to exactly these
(`find?_realAxes_build`).

An entry is left out of the graph when one with its identity is there already.  No two virtual
axes of a configuration share an identity (`identity_ne_axesOfAll`) and no expression lists a
dependency twice, so this never happens while a graph is built.
-/

namespace AxisMixer

theorem VirtAxis.nodup_dependencies (v : VirtAxis) : v.dependencies.Nodup :=
  Expr.nodup_dependencies _

namespace Graph

variable {S : Type}

/-! ### Connecting one dependency after another -/

/-- The virtual axes that the links lead to from `k`. -/
def targets (links : List (VirtAxis × AxisKey)) (k : AxisKey) : List VirtAxis :=
  (links.filter fun l => l.2 = k).map Prod.fst

/-- The virtual axes that `k` is connected to. -/
def downstream (c : Connections S) (k : AxisKey) : List VirtAxis :=
  ((c.find? k).map RealAxis.downstream).getD []

/-- No two of the entries compute the same axis. -/
def Distinct (vs : List VirtAxis) : Prop := vs.Pairwise fun v w => v.identity ≠ w.identity

theorem not_covers {r : RealAxis S} {v : VirtAxis} (h : Distinct (r.downstream ++ [v])) :
    r.covers v = false := by
  obtain ⟨-, -, h⟩ := List.pairwise_append.mp h
  simp only [RealAxis.covers, List.any_eq_false, beq_iff_eq]
  exact fun w hw => h w hw v (List.mem_singleton.mpr rfl)

/-- A new entry goes behind the ones under its key, and nothing else changes. -/
theorem downstream_connect {c : Connections S} {s : S} {v : VirtAxis} {k : AxisKey}
    (h : Distinct (downstream c k ++ [v])) (k' : AxisKey) :
    downstream (connect c s v k).1 k' = downstream c k' ++ if k = k' then [v] else [] := by
  simp only [connect, downstream, OrderedMap.find?_insert]
  by_cases e : k = k'
  · subst e
    have hr : Distinct
        (((c.find? k).getD { source := s, axis := k.axis }).downstream ++ [v]) := by
      cases hk : c.find? k with
      | none => exact List.pairwise_singleton _ _
      | some r =>
          rw [downstream, hk] at h
          exact h
    simp only [if_true, Option.map_some, Option.getD_some, RealAxis.addDownstream, not_covers hr]
    cases c.find? k <;> rfl
  · simp only [if_neg e, List.append_nil]

/-- Whatever is connected leads somewhere. -/
def Inhabited (c : Connections S) : Prop := ∀ k r, c.find? k = some r → r.downstream ≠ []

theorem inhabited_connect {c : Connections S} (hc : Inhabited c) (s : S) (v : VirtAxis)
    (k : AxisKey) : Inhabited (connect c s v k).1 := by
  intro k' r h
  rw [connect, OrderedMap.find?_insert] at h
  split at h
  · cases h
    rw [RealAxis.addDownstream]
    split
    · next hv =>
        obtain ⟨w, hw, -⟩ := List.any_eq_true.mp hv
        exact List.ne_nil_of_mem hw
    · exact List.append_ne_nil_of_right_ne_nil _ (List.cons_ne_nil _ _)
  · exact hc k' r h

section ConnectAll

variable {view : SourceView S} {sources : OrderedMap String S} {virtual : OrderedMap String Output}

/-- A dependency is served by the device that it names. -/
theorem find?_of_provider {v : VirtAxis} {k : AxisKey} {s : S}
    (h : provider view sources virtual v k = .ok s) : sources.find? k.device = some s := by
  rw [provider] at h
  split at h
  · cases h
  · next s' hs =>
      split at h
      · cases h
        exact hs
      · cases h

/-- The device that serves a dependency has the axis. -/
theorem supports_of_provider {v : VirtAxis} {k : AxisKey} {s : S}
    (h : provider view sources virtual v k = .ok s) : view.supports s k.axis = true := by
  rw [provider] at h
  split at h
  · cases h
  · split at h
    · next hs =>
        cases h
        exact hs
    · cases h

/-- One link connected, and the others from there. -/
theorem connectAll_cons {c out : Connections S} {log log' : Log} {v : VirtAxis} {k : AxisKey}
    {rest : List (VirtAxis × AxisKey)}
    (h : connectAll view sources virtual c log ((v, k) :: rest) = (.ok out, log')) :
    ∃ s log₁, provider view sources virtual v k = .ok s ∧
      connectAll view sources virtual (connect c s v k).1 log₁ rest = (.ok out, log') := by
  rw [connectAll] at h
  split at h
  · cases h
  · next s hs => exact ⟨s, _, hs, h⟩

/-- **Nothing is left out.**  When links with distinct identities under each key are connected,
the entries under `k` are the ones that were there and behind them those of the links. -/
theorem downstream_connectAll {out : Connections S} {log' : Log} :
    ∀ (links : List (VirtAxis × AxisKey)) {c : Connections S} {log : Log},
      connectAll view sources virtual c log links = (.ok out, log') →
      (∀ k, Distinct (downstream c k ++ targets links k)) →
      ∀ k, downstream out k = downstream c k ++ targets links k
  | [], c, log, h, _, k => by
      cases h
      exact (List.append_nil _).symm
  | (v, k₁) :: rest, c, log, h, hd, k => by
      obtain ⟨s, log₁, -, h⟩ := connectAll_cons h
      have hcons : ∀ k, targets ((v, k₁) :: rest) k =
          (if k₁ = k then [v] else []) ++ targets rest k := by
        intro k
        by_cases e : k₁ = k <;> simp [targets, e]
      -- `v` is new under `k₁`, for its identity is
      have hv : Distinct (downstream c k₁ ++ [v]) := by
        have hk := hd k₁
        rw [hcons, if_pos rfl, ← List.append_assoc] at hk
        exact (List.pairwise_append.mp hk).1
      have hstep := downstream_connect (s := s) hv
      rw [downstream_connectAll rest h (fun k => ?_) k, hstep, hcons, List.append_assoc]
      rw [hstep, List.append_assoc, ← hcons]
      exact hd k

theorem inhabited_connectAll {out : Connections S} {log' : Log} :
    ∀ (links : List (VirtAxis × AxisKey)) {c : Connections S} {log : Log},
      connectAll view sources virtual c log links = (.ok out, log') → Inhabited c → Inhabited out
  | [], c, log, h, hc => by
      cases h
      exact hc
  | (v, k) :: rest, c, log, h, hc => by
      obtain ⟨s, log₁, -, h⟩ := connectAll_cons h
      exact inhabited_connectAll rest h (inhabited_connect hc s v k)

/-- Every dependency that was connected has a physical device to serve it. -/
theorem provider_of_connectAll {out : Connections S} {log' : Log} :
    ∀ (links : List (VirtAxis × AxisKey)) {c : Connections S} {log : Log},
      connectAll view sources virtual c log links = (.ok out, log') →
      ∀ l ∈ links, ∃ s, provider view sources virtual l.1 l.2 = .ok s
  | [], _, _, _, _, hl => by cases hl
  | (v, k) :: rest, c, log, h, l, hl => by
      obtain ⟨s, log₁, hs, h⟩ := connectAll_cons h
      rcases List.mem_cons.mp hl with rfl | hl
      · exact ⟨s, hs⟩
      · exact provider_of_connectAll rest h l hl

end ConnectAll

/-! ### The virtual axes of a configuration -/

/-- A virtual axis stands at the place of its device, under the name of its device. -/
theorem getElem?_of_mem_axesOfAll {virtual : OrderedMap String Output} {v : VirtAxis}
    (h : v ∈ axesOfAll virtual) :
    ∃ i : Nat, v.deviceId = i ∧ virtual.keys[i]? = some v.key.device := by
  obtain ⟨⟨⟨name, output⟩, i⟩, he, hv⟩ := List.mem_flatMap.mp h
  obtain ⟨e, -, rfl⟩ := List.mem_map.mp hv
  refine ⟨i, rfl, ?_⟩
  rw [OrderedMap.keys, List.getElem?_map, List.mem_zipIdx_iff_getElem?.mp he]
  rfl

/-- A virtual axis is one of its device. -/
theorem mem_axes_of_mem_axesOfAll {virtual : OrderedMap String Output} {v : VirtAxis}
    (h : v ∈ axesOfAll virtual) :
    ∃ output, (v.key.device, output) ∈ virtual.entries ∧ v.key.axis ∈ output.axes.keys := by
  obtain ⟨⟨⟨name, output⟩, i⟩, he, hv⟩ := List.mem_flatMap.mp h
  obtain ⟨e, hmem, rfl⟩ := List.mem_map.mp hv
  have hentry := List.mem_of_getElem? (List.mem_zipIdx_iff_getElem?.mp he)
  exact ⟨output, hentry, List.mem_map.mpr ⟨e, hmem, rfl⟩⟩

/-- Within a device the axes differ; across devices both the places and the names do. -/
theorem apart_axesOfAll (virtual : OrderedMap String Output) :
    (axesOfAll virtual).Pairwise fun v w => v.key.axis ≠ w.key.axis ∨
      v.deviceId ≠ w.deviceId ∧ v.key.device ≠ w.key.device := by
  refine List.pairwise_flatMap.mpr ⟨fun ⟨⟨name, output⟩, i⟩ _ => ?_, ?_⟩
  · -- two axes of one device
    refine List.pairwise_map.mpr (List.Pairwise.imp ?_ (List.pairwise_map.mp output.axes.nodup))
    intro e e' hne
    exact .inl hne
  · -- axes of two devices
    have hidx : virtual.entries.zipIdx.Pairwise fun e e' => e.2 ≠ e'.2 := by
      rw [← List.pairwise_map (f := Prod.snd) (R := fun i j => i ≠ j), List.zipIdx_map_snd]
      exact List.nodup_range'
    have hname : virtual.entries.zipIdx.Pairwise fun e e' => e.1.1 ≠ e'.1.1 := by
      have h : (virtual.entries.zipIdx.map Prod.fst).Pairwise fun e e' => e.1 ≠ e'.1 := by
        rw [List.zipIdx_map_fst]
        exact List.pairwise_map.mp virtual.nodup
      rwa [List.pairwise_map] at h
    refine (hidx.and hname).imp ?_
    intro e e' ⟨hi, hn⟩ v hv w hw
    obtain ⟨_, _, rfl⟩ := List.mem_map.mp hv
    obtain ⟨_, _, rfl⟩ := List.mem_map.mp hw
    exact .inr ⟨fun h => hi (Int.ofNat.inj h), hn⟩

theorem identity_ne_axesOfAll (virtual : OrderedMap String Output) :
    Distinct (axesOfAll virtual) := by
  refine (apart_axesOfAll virtual).imp ?_
  rintro v w (h | ⟨h, -⟩) heq
  · exact h (congrArg (fun t => t.2.1) heq)
  · exact h (congrArg Prod.fst heq)

/-- No two virtual axes have the same name. -/
theorem nodup_keys_axesOfAll (virtual : OrderedMap String Output) :
    ((axesOfAll virtual).map VirtAxis.key).Nodup := by
  refine List.pairwise_map.mpr ((apart_axesOfAll virtual).imp ?_)
  rintro v w (h | ⟨-, h⟩) heq
  · exact h (congrArg AxisKey.axis heq)
  · exact h (congrArg AxisKey.device heq)

/-- A virtual axis is known by its name. -/
theorem eq_of_key_eq {virtual : OrderedMap String Output} {v w : VirtAxis}
    (hv : v ∈ axesOfAll virtual) (hw : w ∈ axesOfAll virtual) (h : v.key = w.key) : v = w :=
  List.inj_on_of_nodup_map (nodup_keys_axesOfAll virtual) hv hw h

theorem nodup_axesOfAll (virtual : OrderedMap String Output) : (axesOfAll virtual).Nodup :=
  (identity_ne_axesOfAll virtual).imp fun h e => h (congrArg VirtAxis.identity e)

/-- The virtual axes whose expressions mention `k`, in the order of the configuration. -/
def dependents (virtual : OrderedMap String Output) (k : AxisKey) : List VirtAxis :=
  (axesOfAll virtual).filter fun v => k ∈ v.dependencies

theorem mem_dependents {virtual : OrderedMap String Output} {k : AxisKey} {v : VirtAxis} :
    v ∈ dependents virtual k ↔ v ∈ axesOfAll virtual ∧ k ∈ v.dependencies := by
  simp only [dependents, List.mem_filter, decide_eq_true_eq]

theorem nodup_dependents (virtual : OrderedMap String Output) (k : AxisKey) :
    (dependents virtual k).Nodup :=
  (nodup_axesOfAll virtual).filter _

/-- Each axis is linked to `k` once if its expression mentions `k`, and not at all otherwise. -/
theorem targets_links (k : AxisKey) :
    ∀ axes : List VirtAxis, targets (links axes) k = axes.filter fun v => k ∈ v.dependencies
  | [] => rfl
  | v :: axes => by
      have hv : targets (v.dependencies.map fun k => (v, k)) k =
          if k ∈ v.dependencies then [v] else [] := by
        rw [targets, List.filter_map, List.map_map]
        show ((v.dependencies.filter fun k' => decide (k' = k)).map fun _ => v) = _
        rw [List.filter_eq, List.map_replicate]
        split
        · next h =>
            rw [List.count_eq_one_of_mem v.nodup_dependencies h]
            rfl
        · next h =>
            rw [List.count_eq_zero_of_not_mem h]
            rfl
      have hcons : targets (links (v :: axes)) k =
          targets (v.dependencies.map fun k => (v, k)) k ++ targets (links axes) k := by
        simp only [targets, links, List.flatMap_cons, List.filter_append, List.map_append]
      rw [hcons, hv, targets_links k axes, List.filter_cons]
      split <;> simp_all

section Build

variable {view : SourceView S} {sources : OrderedMap String S} {virtual : OrderedMap String Output}
  {g : Graph S}

/-- What a built graph is made of. -/
theorem of_build (h : (build view sources virtual).1 = .ok g) :
    g.sources = sources ∧ g.devices = virtual.keys ∧ g.virtAxes = axesOfAll virtual ∧
      ∃ log, connectAll view sources virtual .empty #[] (links (axesOfAll virtual)) =
        (.ok g.realAxes, log) := by
  simp only [build] at h
  rcases hc : connectAll view sources virtual .empty #[] (links (axesOfAll virtual)) with
    ⟨e | out, log⟩
  · rw [hc] at h
    cases h
  · rw [hc] at h
    cases h
    exact ⟨rfl, rfl, rfl, log, rfl⟩

/-- **A physical axis leads to its dependents.**  In a built graph `k` is found if some virtual
axis mentions it, and leads to the virtual axes that do, in the order of the configuration. -/
theorem find?_realAxes_build (h : (build view sources virtual).1 = .ok g) (k : AxisKey) :
    (g.realAxes.find? k).map RealAxis.downstream =
      if dependents virtual k = [] then none else some (dependents virtual k) := by
  obtain ⟨-, -, -, log, hc⟩ := of_build h
  have hnil : ∀ k, downstream (S := S) .empty k = [] := fun _ => rfl
  have hdown : downstream g.realAxes k = dependents virtual k := by
    rw [downstream_connectAll _ hc (fun k => ?_) k, hnil, targets_links]
    · rfl
    · rw [hnil, targets_links]
      exact (identity_ne_axesOfAll virtual).sublist List.filter_sublist
  have hlive := inhabited_connectAll _ hc fun k r hr => by cases hr
  rw [← hdown, downstream]
  cases hk : g.realAxes.find? k with
  | none => rfl
  | some r => exact (if_neg (hlive k r hk)).symm

/-- What is downstream of an axis mentions it. -/
theorem mem_dependents_of_downstream (h : (build view sources virtual).1 = .ok g) {k : AxisKey}
    {real : RealAxis S} (hreal : g.realAxes.find? k = some real) {v : VirtAxis}
    (hv : v ∈ real.downstream) : v ∈ dependents virtual k := by
  have hdown := find?_realAxes_build h k
  rw [hreal, Option.map_some] at hdown
  split at hdown
  · cases hdown
  · rw [← Option.some.inj hdown]
    exact hv

/-- A dependency of a virtual axis names a physical device that has it. -/
theorem provider_of_build (h : (build view sources virtual).1 = .ok g) {v : VirtAxis}
    (hv : v ∈ axesOfAll virtual) {k : AxisKey} (hk : k ∈ v.dependencies) :
    ∃ s, provider view sources virtual v k = .ok s := by
  obtain ⟨-, -, -, log, hc⟩ := of_build h
  exact provider_of_connectAll _ hc (v, k)
    (List.mem_flatMap.mpr ⟨v, hv, List.mem_map.mpr ⟨k, hk, rfl⟩⟩)

end Build

end Graph

end AxisMixer
