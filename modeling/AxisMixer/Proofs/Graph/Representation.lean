import AxisMixer.Proofs.Graph.Connections

/-!
# The dependency graph — what a built graph says of its configuration

A graph represents a configuration (`Graph.Represents`) if it lists the virtual devices and their
axes as the configuration does, has those physical axes that some expression refers to, in the
order in which they are first referred to, and leads from each of them to the virtual axes that
refer to it.

What one connection does to the keys of the graph is an `eraseDups`: a key that is there stays
where it is, and a new one goes to the end (`keys_insert_eq`).  So the keys after all connections
are the dependencies of all virtual axes, each kept where it comes first (`keys_connectAll`).

* `Graph.represents_of_build`: a built graph represents its configuration.
-/

namespace AxisMixer

/-! ### Keeping the first of equal entries -/

theorem eraseDups_of_nodup {α : Type} [DecidableEq α] :
    ∀ {l : List α}, l.Nodup → l.eraseDups = l
  | [], _ => rfl
  | a :: l, h => by
      obtain ⟨ha, h⟩ := List.nodup_cons.mp h
      have hrest : (l.filter fun b => !b == a) = l := by
        refine List.filter_eq_self.mpr fun b hb => ?_
        have hne : b ≠ a := fun e => ha (e ▸ hb)
        simpa using hne
      rw [List.eraseDups_cons, hrest, eraseDups_of_nodup h]

/-- Repetitions in the front part may be left out first. -/
theorem eraseDups_eraseDups_append {α : Type} [DecidableEq α] (l r : List α) :
    (l.eraseDups ++ r).eraseDups = (l ++ r).eraseDups := by
  have hr : r.removeAll l.eraseDups = r.removeAll l := by
    refine List.filter_congr fun a _ => ?_
    simp only [List.elem_eq_contains, List.contains_eq_mem, List.mem_eraseDups]
  rw [List.eraseDups_append, List.eraseDups_append, hr,
    eraseDups_of_nodup (Expr.nodup_eraseDups l)]

namespace OrderedMap

variable {κ α : Type}

theorem nodup_keys (m : OrderedMap κ α) : m.keys.Nodup := m.nodup

/-- A key that is there stays where it is, and a new one goes to the end. -/
theorem keys_insert_eq [DecidableEq κ] (m : OrderedMap κ α) (k : κ) (a : α) :
    (m.insert k a).keys = (m.keys ++ [k]).eraseDups := by
  rw [keys_insert, List.eraseDups_append, eraseDups_of_nodup m.nodup_keys]
  by_cases h : k ∈ m.keys
  · simp [h, List.removeAll]
  · simp [h, List.removeAll, List.eraseDups_cons]

end OrderedMap

namespace Graph

variable {S : Type}

/-! ### Connecting one dependency after another -/

section ConnectAll

variable {view : SourceView S} {sources : OrderedMap String S} {virtual : OrderedMap String Output}

/-- The keys of the links go behind the ones that were there, as far as they are new. -/
theorem keys_connectAll {out : Connections S} {log' : Log} :
    ∀ (links : List (VirtAxis × AxisKey)) {c : Connections S} {log : Log},
      connectAll view sources virtual c log links = (.ok out, log') →
      OrderedMap.keys out = (OrderedMap.keys c ++ links.map Prod.snd).eraseDups
  | [], c, log, h => by
      cases h
      rw [List.map_nil, List.append_nil, eraseDups_of_nodup out.nodup_keys]
  | (v, k) :: rest, c, log, h => by
      obtain ⟨s, log₁, -, h⟩ := connectAll_cons h
      rw [keys_connectAll rest h, connect, OrderedMap.keys_insert_eq, eraseDups_eraseDups_append,
        List.append_assoc]
      rfl

/-- Every physical axis is the one that its key names, on the device that its key names. -/
def Sourced (sources : OrderedMap String S) (c : Connections S) : Prop :=
  ∀ k r, c.find? k = some r → sources.find? k.device = some r.source ∧ r.axis = k.axis

theorem sourced_connect {c : Connections S} (hc : Sourced sources c) {s : S} {k : AxisKey}
    (hs : sources.find? k.device = some s) (v : VirtAxis) :
    Sourced sources (connect c s v k).1 := by
  intro k' r h
  rw [connect, OrderedMap.find?_insert] at h
  split at h
  · next e =>
      cases h
      subst e
      have hold : sources.find? k.device =
            some ((c.find? k).getD { source := s, axis := k.axis }).source ∧
          ((c.find? k).getD { source := s, axis := k.axis }).axis = k.axis := by
        cases hk : c.find? k with
        | none => exact ⟨hs, rfl⟩
        | some r => exact hc k r hk
      rw [RealAxis.addDownstream]
      split <;> exact hold
  · exact hc k' r h

theorem sourced_connectAll {out : Connections S} {log' : Log} :
    ∀ (links : List (VirtAxis × AxisKey)) {c : Connections S} {log : Log},
      connectAll view sources virtual c log links = (.ok out, log') →
      Sourced sources c → Sourced sources out
  | [], c, log, h, hc => by
      cases h
      exact hc
  | (v, k) :: rest, c, log, h, hc => by
      obtain ⟨s, log₁, hs, h⟩ := connectAll_cons h
      exact sourced_connectAll rest h (sourced_connect hc (find?_of_provider hs) v)

end ConnectAll

/-! ### The graph of a configuration -/

/-- The virtual axes that a configuration asks for, with their rules, device by device. -/
def configured (virtual : OrderedMap String Output) : List (AxisKey × Rule) :=
  virtual.entries.flatMap fun d => d.2.axes.entries.map fun a => (⟨d.1, a.1⟩, a.2)

/-- What the graph of a configuration has to say. -/
structure Represents (view : SourceView S) (sources : OrderedMap String S)
    (virtual : OrderedMap String Output) (g : Graph S) : Prop where
  devices : g.devices = virtual.keys
  virtAxes : g.virtAxes.map (fun v => (v.key, v.rule)) = configured virtual
  once : (g.virtAxes.map VirtAxis.key).Nodup
  /-- A virtual axis holds the place of its own device. -/
  place : ∀ v ∈ g.virtAxes,
    v.key.device ∈ g.devices ∧ v.deviceId = (g.devices.idxOf v.key.device : Nat)
  /-- A physical axis is in the graph if some expression refers to it, and only then. -/
  contains : ∀ k, g.realAxes.contains k = true ↔ ∃ v ∈ g.virtAxes, k ∈ v.expr.references
  /-- Each stands where it is first referred to. -/
  keys : g.realAxes.keys = (g.virtAxes.flatMap VirtAxis.dependencies).eraseDups
  downstream : ∀ k r, g.realAxes.find? k = some r →
    r.downstream = (g.virtAxes.filter fun v => k ∈ v.dependencies) ∧ r.downstream.Nodup
  source : ∀ k r, g.realAxes.find? k = some r →
    sources.find? k.device = some r.source ∧ r.axis = k.axis
  /-- A physical axis has its own name, if the devices are known by theirs. -/
  named : (∀ name s, sources.find? name = some s → view.name s = name) →
    ∀ k r, g.realAxes.find? k = some r → r.key view = k

theorem map_axesOfAll (virtual : OrderedMap String Output) :
    (axesOfAll virtual).map (fun v => (v.key, v.rule)) = configured virtual := by
  have hentries : virtual.entries = virtual.entries.zipIdx.map Prod.fst :=
    (List.zipIdx_map_fst 0 virtual.entries).symm
  rw [configured, hentries, List.flatMap_map, axesOfAll, List.map_flatMap]
  simp only [axesOf, List.map_map, Function.comp_def]

theorem place_of_mem_axesOfAll {virtual : OrderedMap String Output} {v : VirtAxis}
    (hv : v ∈ axesOfAll virtual) :
    v.key.device ∈ virtual.keys ∧ v.deviceId = (virtual.keys.idxOf v.key.device : Nat) := by
  obtain ⟨i, hi, hk⟩ := getElem?_of_mem_axesOfAll hv
  obtain ⟨hlt, hk⟩ := List.getElem?_eq_some_iff.mp hk
  refine ⟨hk ▸ List.getElem_mem hlt, ?_⟩
  rw [hi, ← hk, virtual.nodup_keys.idxOf_getElem]

theorem map_snd_links (axes : List VirtAxis) :
    (links axes).map Prod.snd = axes.flatMap VirtAxis.dependencies := by
  simp only [links, List.map_flatMap, List.map_map, Function.comp_def, List.map_id']

/-- The keys of a built graph. -/
theorem keys_realAxes_build {view : SourceView S} {sources : OrderedMap String S}
    {virtual : OrderedMap String Output} {g : Graph S}
    (h : (build view sources virtual).1 = .ok g) :
    g.realAxes.keys = ((axesOfAll virtual).flatMap VirtAxis.dependencies).eraseDups := by
  obtain ⟨-, -, -, log, hc⟩ := of_build h
  have hkeys := keys_connectAll _ hc
  rwa [map_snd_links] at hkeys

/-- **The graph of a configuration.**  A built graph represents its configuration. -/
theorem represents_of_build {view : SourceView S} {sources : OrderedMap String S}
    {virtual : OrderedMap String Output} {g : Graph S}
    (h : (build view sources virtual).1 = .ok g) : Represents view sources virtual g := by
  obtain ⟨-, hdevices, haxes, log, hc⟩ := of_build h
  have hsourced : Sourced sources g.realAxes :=
    sourced_connectAll _ hc fun k r hr => by cases hr
  have hcontains : ∀ k, g.realAxes.contains k = true ↔
      ∃ v ∈ axesOfAll virtual, k ∈ v.expr.references := by
    intro k
    rw [OrderedMap.contains_iff, keys_realAxes_build h, List.mem_eraseDups, List.mem_flatMap]
    simp only [VirtAxis.dependencies, Expr.mem_dependencies]
  have hdownstream : ∀ k r, g.realAxes.find? k = some r → r.downstream = dependents virtual k := by
    intro k r hr
    have hfind := find?_realAxes_build h k
    rw [hr, Option.map_some] at hfind
    split at hfind
    · cases hfind
    · exact Option.some.inj hfind
  constructor
  case devices => exact hdevices
  case source => exact hsourced
  case named =>
      intro hnamed k r hr
      obtain ⟨hs, haxis⟩ := hsourced k r hr
      rw [RealAxis.key, hnamed _ _ hs, haxis]
  all_goals rw [haxes]
  case virtAxes => exact map_axesOfAll virtual
  case once => exact nodup_keys_axesOfAll virtual
  case place => exact fun v hv => hdevices ▸ place_of_mem_axesOfAll hv
  case contains => exact hcontains
  case keys => exact keys_realAxes_build h
  case downstream =>
      intro k r hr
      rw [hdownstream k r hr]
      exact ⟨rfl, nodup_dependents virtual k⟩

/-- Two virtual devices with the axis `A:X - B:Y * A:X`; the first one has the axis `B:Y` too. -/
def twins : OrderedMap String Output :=
  let product : Expr := .binary .mul (.ref ⟨"B", .y⟩) (.ref ⟨"A", .x⟩)
  let shared : Rule := ⟨-100, 100, .binary .sub (.ref ⟨"A", .x⟩) product, by decide⟩
  let other : Rule := ⟨-1, 1, .ref ⟨"B", .y⟩, by decide⟩
  .ofList [("left", ⟨.ofList [(.x, shared), (.y, other)], "", 0, 0⟩),
    ("right", ⟨.ofList [(.x, shared)], "", 0, 0⟩)]

/-- Neither the second reference to `A:X` nor the second axis with this expression gets lost or
counts twice. -/
theorem represents_of_build_twins :
    ∃ g : Graph String,
      (build ⟨id, fun _ _ => true⟩ (.ofList [("B", "B"), ("A", "A")]) twins).1 = .ok g ∧
      Represents ⟨id, fun _ _ => true⟩ (.ofList [("B", "B"), ("A", "A")]) twins g ∧
      g.realAxes.keys = [⟨"A", .x⟩, ⟨"B", .y⟩] ∧
      ∀ r, g.realAxes.find? ⟨"A", .x⟩ = some r →
        r.downstream.map (fun v => (v.deviceId, v.key)) =
          [(0, ⟨"left", .x⟩), (1, ⟨"right", .x⟩)] := by
  refine ⟨_, rfl, ?_⟩
  have h : Represents ⟨id, fun _ _ => true⟩ (.ofList [("B", "B"), ("A", "A")]) twins _ :=
    represents_of_build rfl
  refine ⟨h, h.keys.trans (by decide), fun r hr => ?_⟩
  rw [(h.downstream _ r hr).1]
  decide

end Graph

end AxisMixer
