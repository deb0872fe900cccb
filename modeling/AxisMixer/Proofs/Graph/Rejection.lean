import AxisMixer.Proofs.Graph.Representation

/-!
# The dependency graph — the configurations that are rejected

Every virtual axis demands the axes that its expression refers to.  A demand is served by a physical
device that has the demanded name and axis (`Served`), and otherwise at fault (`Fault`), in one of
two ways.  Virtual devices serve no demand; but where the device is not a physical one, the error
tells whether it is a virtual one.

The demands of a configuration have an order (`demands`): that of the devices, then that of the axes
of a device, then from left to right in the expression.  A graph is built if every demand is served,
and otherwise the first that is at fault decides the error.

* `Graph.build_rejects`: which configurations are rejected, and with which error.
-/

namespace AxisMixer

theorem OrderedMap.find?_eq_none_iff {κ α : Type} [DecidableEq κ] (m : OrderedMap κ α) {k : κ} :
    m.find? k = none ↔ k ∉ m.keys := by
  rw [← m.contains_iff, contains, Bool.not_eq_true, Option.isSome_eq_false_iff,
    Option.isNone_iff_eq_none]

namespace Graph

variable {S : Type}

/-- The virtual axes with the axes they demand, in the order of the configuration. -/
def demands (virtual : OrderedMap String Output) : List (AxisKey × AxisKey) :=
  (configured virtual).flatMap fun c => c.2.expr.dependencies.map fun k => (c.1, k)

/-- There is a physical device of this name, and it has the axis. -/
def Served (view : SourceView S) (sources : OrderedMap String S) (k : AxisKey) : Prop :=
  ∃ s, (k.device, s) ∈ sources.entries ∧ view.supports s k.axis = true

/-- What is wrong with the demand of `consumer` for `k`. -/
inductive Fault (view : SourceView S) (sources : OrderedMap String S)
    (virtual : OrderedMap String Output) (consumer k : AxisKey) : DependencyError → Prop
  | undefined (h : k.device ∉ sources.keys) :
      Fault view sources virtual consumer k
        (.undefinedDevice consumer k (decide (k.device ∈ virtual.keys)))
  | unsupported {s : S} (hs : (k.device, s) ∈ sources.entries)
      (h : view.supports s k.axis = false) :
      Fault view sources virtual consumer k (.unsupportedAxis consumer k)

section

variable {view : SourceView S} {sources : OrderedMap String S} {virtual : OrderedMap String Output}
  {e : DependencyError}

/-! ### One demand -/

theorem served_iff {v : VirtAxis} {k : AxisKey} :
    (∃ s, provider view sources virtual v k = .ok s) ↔ Served view sources k := by
  constructor
  · rintro ⟨s, h⟩
    exact ⟨s, sources.find?_eq_some_iff.mp (find?_of_provider h), supports_of_provider h⟩
  · rintro ⟨s, hs, h⟩
    refine ⟨s, ?_⟩
    rw [provider, sources.find?_eq_some_iff.mpr hs]
    exact if_pos h

/-- A demand that is not served is at fault. -/
theorem fault_iff {v : VirtAxis} {k : AxisKey} :
    provider view sources virtual v k = .error e ↔ Fault view sources virtual v.key k e := by
  have hvirtual : virtual.contains k.device = decide (k.device ∈ virtual.keys) :=
    Bool.eq_iff_iff.mpr (virtual.contains_iff.trans decide_eq_true_iff.symm)
  constructor
  · intro h
    rw [provider, hvirtual] at h
    split at h
    · next hnone =>
        cases h
        exact .undefined (sources.find?_eq_none_iff.mp hnone)
    · next s hs =>
        split at h
        · cases h
        · next hsupports =>
            cases h
            exact .unsupported (sources.find?_eq_some_iff.mp hs) (eq_false_of_ne_true hsupports)
  · rintro (h | ⟨hs, h⟩)
    · rw [provider, sources.find?_eq_none_iff.mpr h, hvirtual]
    · rw [provider, sources.find?_eq_some_iff.mpr hs]
      exact if_neg (Bool.not_eq_true _ ▸ h)

theorem Fault.key_eq {consumer k : AxisKey} (h : Fault view sources virtual consumer k e) :
    e.key = k := by
  cases h <;> rfl

theorem Fault.message_of_virtual {consumer k : AxisKey}
    (h : Fault view sources virtual consumer k e) (hsources : k.device ∉ sources.keys)
    (hvirtual : k.device ∈ virtual.keys) :
    e.message = "Virtual axis " ++ consumer.text ++ " references virtual device '" ++ k.device ++
      "'; expressions may only read physical devices" := by
  cases h with
  | undefined _ =>
      rw [decide_eq_true hvirtual]
      rfl
  | unsupported hs _ => exact absurd (List.mem_map_of_mem hs) hsources

/-! ### One demand after another -/

/-- Connecting fails at the first link that has no provider, with the error of this link. -/
theorem connectAll_eq_error_iff :
    ∀ (links : List (VirtAxis × AxisKey)) (c : Connections S) (log : Log),
      (connectAll view sources virtual c log links).1 = .error e ↔
        ∃ before v k behind, links = before ++ (v, k) :: behind ∧
          (∀ l ∈ before, ∃ s, provider view sources virtual l.1 l.2 = .ok s) ∧
          provider view sources virtual v k = .error e
  | [], c, log => by
      simp only [connectAll, reduceCtorEq, false_iff, not_exists, not_and]
      intro before v k behind h
      exact absurd h.symm (List.append_ne_nil_of_right_ne_nil _ (List.cons_ne_nil _ _))
  | (v, k) :: rest, c, log => by
      rw [connectAll]
      cases hp : provider view sources virtual v k with
      | error e' =>
          constructor
          · intro h
            cases h
            exact ⟨[], v, k, rest, rfl, List.forall_mem_nil _, hp⟩
          · rintro ⟨_ | ⟨l, before⟩, v', k', behind, h, hbefore, he⟩
            · cases h
              exact congrArg _ (Except.error.inj (hp.symm.trans he))
            · obtain ⟨s, hs⟩ := (List.forall_mem_cons.mp hbefore).1
              cases h
              rw [hp] at hs
              cases hs
      | ok s =>
          refine (connectAll_eq_error_iff rest _ _).trans ?_
          constructor
          · rintro ⟨before, v', k', behind, rfl, hbefore, he⟩
            exact ⟨(v, k) :: before, v', k', behind, rfl,
              List.forall_mem_cons.mpr ⟨⟨s, hp⟩, hbefore⟩, he⟩
          · rintro ⟨_ | ⟨l, before⟩, v', k', behind, h, hbefore, he⟩
            · cases h
              rw [hp] at he
              cases he
            · exact ⟨before, v', k', behind, (List.cons.inj h).2,
                (List.forall_mem_cons.mp hbefore).2, he⟩

variable (virtual) in
theorem map_links_axesOfAll :
    (links (axesOfAll virtual)).map (fun l => (l.1.key, l.2)) = demands virtual := by
  rw [demands, ← map_axesOfAll, List.flatMap_map, links, List.map_flatMap]
  simp only [List.map_map, Function.comp_def]
  rfl

/-- Building a graph fails when connecting does. -/
theorem build_eq_error_iff :
    (build view sources virtual).1 = .error e ↔
      (connectAll view sources virtual .empty #[] (links (axesOfAll virtual))).1 = .error e := by
  rw [build]
  rcases connectAll view sources virtual .empty #[] (links (axesOfAll virtual)) with ⟨e' | c, log⟩
  · simp only [Except.map, Except.error.injEq]
  · simp only [Except.map, reduceCtorEq]

theorem mem_demands {d : AxisKey × AxisKey} :
    d ∈ demands virtual ↔ ∃ c ∈ configured virtual, c.1 = d.1 ∧ d.2 ∈ c.2.expr.references := by
  simp only [demands, List.mem_flatMap, List.mem_map, Expr.mem_dependencies]
  constructor
  · rintro ⟨c, hc, k, hk, rfl⟩
    exact ⟨c, hc, rfl, hk⟩
  · rintro ⟨c, hc, h, hk⟩
    exact ⟨c, hc, d.2, hk, Prod.ext h rfl⟩

/-- What a graph was built of is served. -/
theorem served_of_build {g : Graph S} (h : (build view sources virtual).1 = .ok g)
    {d : AxisKey × AxisKey} (hd : d ∈ demands virtual) : Served view sources d.2 := by
  rw [← map_links_axesOfAll] at hd
  obtain ⟨⟨v, k⟩, hl, rfl⟩ := List.mem_map.mp hd
  obtain ⟨v', hv, hk⟩ := List.mem_flatMap.mp hl
  obtain ⟨k', hk, hvk⟩ := List.mem_map.mp hk
  cases hvk
  exact served_iff.mp (provider_of_build h hv hk)

/-- A graph that is not built fails at the first demand that is at fault. -/
theorem build_eq_error_iff_fault :
    (build view sources virtual).1 = .error e ↔
      ∃ before consumer k behind, demands virtual = before ++ (consumer, k) :: behind ∧
        (∀ d ∈ before, Served view sources d.2) ∧ Fault view sources virtual consumer k e := by
  rw [build_eq_error_iff, connectAll_eq_error_iff, ← map_links_axesOfAll]
  constructor
  · rintro ⟨before, v, k, behind, h, hbefore, he⟩
    refine ⟨before.map fun l => (l.1.key, l.2), v.key, k, behind.map fun l => (l.1.key, l.2),
      ?_, ?_, fault_iff.mp he⟩
    · rw [h, List.map_append, List.map_cons]
    · intro d hd
      obtain ⟨l, hl, rfl⟩ := List.mem_map.mp hd
      exact served_iff.mp (hbefore l hl)
  · rintro ⟨_, consumer, k, _, h, hbefore, he⟩
    obtain ⟨before, rest, hlinks, rfl, hrest⟩ := List.map_eq_append_iff.mp h
    obtain ⟨⟨v, k'⟩, behind, rfl, hd, rfl⟩ := List.map_eq_cons_iff.mp hrest
    cases hd
    exact ⟨before, v, k', behind, hlinks,
      fun l hl => served_iff.mpr (hbefore _ (List.mem_map_of_mem hl)), fault_iff.mpr he⟩

end

/-! ### Rejected configurations -/

/-- **Which configurations are rejected.**  A configuration is rejected if some expression refers to
an axis of a device that is not a physical one, or to an axis that its physical device does not
have.  The error is that of the first demand at fault, and it carries this axis.  Where the device
of this name is a virtual one, the message says so; a device that is both physical and virtual is
taken as the physical one. -/
theorem build_rejects (view : SourceView S) (sources : OrderedMap String S)
    (virtual : OrderedMap String Output) :
    ((∃ e, (build view sources virtual).1 = .error e) ↔
      ∃ c ∈ configured virtual, ∃ k ∈ c.2.expr.references,
        k.device ∉ sources.keys ∨
          ∃ s, (k.device, s) ∈ sources.entries ∧ view.supports s k.axis = false) ∧
    (∀ e, (build view sources virtual).1 = .error e ↔
      ∃ before consumer k behind, demands virtual = before ++ (consumer, k) :: behind ∧
        (∀ d ∈ before, Served view sources d.2) ∧ Fault view sources virtual consumer k e) ∧
    ∀ consumer k e, Fault view sources virtual consumer k e → e.key = k ∧
      (k.device ∉ sources.keys → k.device ∈ virtual.keys →
        e.message = "Virtual axis " ++ consumer.text ++ " references virtual device '" ++
          k.device ++ "'; expressions may only read physical devices") := by
  refine ⟨⟨?_, ?_⟩, fun e => build_eq_error_iff_fault,
    fun consumer k e h => ⟨h.key_eq, h.message_of_virtual⟩⟩
  · rintro ⟨e, he⟩
    obtain ⟨before, consumer, k, behind, hdemands, -, hfault⟩ := build_eq_error_iff_fault.mp he
    have hmem : (consumer, k) ∈ demands virtual :=
      hdemands ▸ List.mem_append_right _ List.mem_cons_self
    obtain ⟨c, hc, -, hk⟩ := mem_demands.mp hmem
    refine ⟨c, hc, k, hk, ?_⟩
    cases hfault with
    | undefined h => exact .inl h
    | unsupported hs h => exact .inr ⟨_, hs, h⟩
  · rintro ⟨c, hc, k, hk, hunserved⟩
    cases hbuild : (build view sources virtual).1 with
    | error e => exact ⟨e, rfl⟩
    | ok g =>
        -- a graph that is built serves `k`
        obtain ⟨s, hs, hsupports⟩ :=
          served_of_build hbuild (d := (c.1, k)) (mem_demands.mpr ⟨c, hc, rfl, hk⟩)
        rcases hunserved with hnone | ⟨s', hs', hsupports'⟩
        · exact absurd (List.mem_map_of_mem hs) hnone
        · have hsame : s = s' := Option.some.inj
            ((sources.find?_eq_some_iff.mpr hs).symm.trans (sources.find?_eq_some_iff.mpr hs'))
          rw [hsame, hsupports'] at hsupports
          cases hsupports

/-- Of the demands for `A:X`, `out:X` and `A:Z` the second is at fault, and so is the third.  The
first is not, though `A` is a virtual device too. -/
example :
    (build ⟨id, fun _ axis => axis = .x⟩ (.ofList [("A", "A")]) (.ofList
      [("out", ⟨.ofList [(.x, ⟨0, 1, .binary .add (.ref ⟨"A", .x⟩)
          (.binary .mul (.ref ⟨"out", .x⟩) (.ref ⟨"A", .z⟩)), by decide⟩)], "", 0, 0⟩),
        ("A", ⟨.ofList [(.x, ⟨0, 1, .lit 1, by decide⟩)], "", 0, 0⟩)])).1 =
      .error (.undefinedDevice ⟨"out", .x⟩ ⟨"out", .x⟩ true) := rfl

end Graph

end AxisMixer
