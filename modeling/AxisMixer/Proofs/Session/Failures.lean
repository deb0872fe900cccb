import AxisMixer.Proofs.Engine.Statistics
import AxisMixer.Session

/-!
# Sessions — what can go wrong while updates are handled

The program is on its guard against much that does not happen once a session has started: a virtual
axis without an output, an axis whose value nobody told, a physical device that there is not or that
lacks the axis, a virtual device that lacks the axis (`Failure.isInternal`).  Each of these is ruled
out by something else: by the places in the graph, by the dependencies that are read, by the check
of the dependencies when the graph was built, by the axes with which a virtual device was created.

Here all of it comes together.  Whatever updates are handled, and whatever the devices do meanwhile
(`Session.Serving`), a virtual axis is skipped only because its expression divides by zero or
because the operating system refuses to read or to write (`Session.Trouble`).

* `PhysicalDevice.Stays`: a device keeps its name and its axes.
* `Session.Realizes`: virtual devices are those of a configuration.
* `Session.Serving`: updates are handled while the devices change.
* `Session.troubles_of_serving`: what can go wrong.
* `Session.serve_error`: what a session ends with.
-/

namespace AxisMixer

/-! ### Faults of the operating system -/

/-- Whether the failure is one that the program comes up with itself. -/
def Failure.isOwn : Failure → Bool
  | configuration _ | propagation _ | noOutput _ => true
  | _ => false

/-- Whether the failure is one of those that the program guards against without need. -/
def Failure.isInternal : Failure → Bool
  | noOutput _ => true
  | propagation (.missingBinding _) => true
  | propagation (.readFailed _ reason) =>
    reason == "device is not defined" || reason == "axis not supported by device"
  | propagation (.writeFailed _ reason) => reason == "axis not configured on device"
  | _ => false

/-- The message of a system error begins with its number. -/
theorem SystemError.message_ne (e : SystemError) {reason : String}
    (h : reason.toList.head? ≠ some '[') : e.message ≠ reason := by
  rintro rfl
  exact h (by simp [message, String.toList_append])

/-- Asking the device for values fails only with failures that are not the program's own. -/
def EventDevice.Foreign (d : EventDevice) : Prop :=
  ∀ code e, d.faults code = some e → e.isOwn = false

/-- What the operating system fails with is not the program's own. -/
structure Host.Foreign (host : Host) : Prop where
  opening : ∀ {deeds path device}, host.opening deeds path = .ok device → device.Foreign
  writing : ∀ {deeds label code e}, host.writing deeds label code = some e → e.isOwn = false

/-! ### What a physical device keeps -/

namespace PhysicalDevice

/-- The name of the device and the codes of its axes. -/
def make (d : PhysicalDevice) : String × List Int := (d.name, d.device.codes)

/-- The second device is the first one in another state. -/
structure Stays (d d' : PhysicalDevice) : Prop where
  make : d'.make = d.make
  foreign : d.device.Foreign → d'.device.Foreign

variable {d d' d'' : PhysicalDevice}

theorem Stays.refl (d : PhysicalDevice) : Stays d d := ⟨rfl, id⟩

theorem Stays.trans (h : Stays d d') (h' : Stays d' d'') : Stays d d'' :=
  ⟨h'.make.trans h.make, h'.foreign ∘ h.foreign⟩

theorem stays_resynchronize (d : PhysicalDevice) (j : Journal) (axes : List Axis) :
    Stays d (d.resynchronize j axes).device := by
  fun_induction resynchronize d j axes with
  | case1 d j => exact .refl d
  | case2 d j a rest value _ ih => exact ⟨ih.make, ih.foreign⟩
  | case3 d j a rest e _ key message ih => exact ih
  | case4 d j => exact .refl d

theorem stays_close (d : PhysicalDevice) (j : Journal) : Stays d (d.close j).device := by
  unfold close
  dsimp only
  split <;> exact ⟨rfl, id⟩

theorem stays_takeEvent (d : PhysicalDevice) (j : Journal) (e : InputEvent) :
    Stays d (d.takeEvent j e).device := by
  unfold takeEvent takePosition
  split
  · exact ⟨rfl, id⟩
  · split
    · split
      · have h := stays_resynchronize { d with isDropping := false } j d.axes
        exact ⟨h.make, h.foreign⟩
      · exact .refl d
    · split
      · split <;> exact ⟨rfl, id⟩
      · exact .refl d

theorem stays_setFault (d : PhysicalDevice) (code : Int) (fault : Option SystemError) :
    Stays d (d.setFault code (fault.map .system)) := by
  refine ⟨rfl, fun hf c e h => ?_⟩
  simp only [setFault, EventDevice.setFault] at h
  split at h
  · obtain ⟨s, -, rfl⟩ := Option.map_eq_some_iff.mp h
    rfl
  · exact hf c e h

theorem stays_take (d : PhysicalDevice) (j : Journal) (incident : Incident) :
    Stays d (d.take j incident).device := by
  cases incident with
  | event e => exact stays_takeEvent d j e
  | moved code value => exact ⟨rfl, id⟩
  | faulted code fault => exact stays_setFault d code fault
  | closed => exact stays_close d j

theorem stays_advance (d : PhysicalDevice) (j : Journal) (incidents : List Incident) :
    Stays d (d.advance j incidents).device := by
  fun_induction advance d j incidents with
  | case1 d j =>
    unfold finish
    dsimp only
    split <;> exact ⟨rfl, id⟩
  | case2 d j incident rest o e he => exact .trans (stays_take d j incident) ⟨rfl, id⟩
  | case3 d j incident rest o update pending => exact .trans (stays_take d j incident) ⟨rfl, id⟩
  | case4 d j incident rest o hp hr ih => exact .trans (stays_take d j incident) ih

/-- Listening to a device leaves it its name and its axes. -/
theorem stays_next (d : PhysicalDevice) (j : Journal) : Stays d (d.next j).device := by
  unfold next
  split
  · exact ⟨rfl, id⟩
  · split
    · exact .refl d
    · rw [device_settle]
      exact stays_advance d j _

theorem map_make_of_stays {ds ds' : List PhysicalDevice} (h : List.Forall₂ Stays ds ds') :
    ds'.map make = ds.map make := by
  induction h with
  | nil => rfl
  | cons h _ ih => rw [List.map_cons, List.map_cons, h.make, ih]

theorem foreign_of_stays {ds ds' : List PhysicalDevice} (h : List.Forall₂ Stays ds ds')
    (hf : ∀ d ∈ ds, d.device.Foreign) : ∀ d ∈ ds', d.device.Foreign := by
  induction h with
  | nil => exact hf
  | cons h _ ih =>
      obtain ⟨hd, hf⟩ := List.forall_mem_cons.mp hf
      exact List.forall_mem_cons.mpr ⟨h.foreign hd, ih hf⟩

end PhysicalDevice

namespace Session

/-! ### Devices that are acquired -/

/-- The virtual devices have the names of the outputs, and their axes. -/
def Realizes (virtual : List VirtualDevice) (outputs : OrderedMap String Output) : Prop :=
  virtual.map (fun d => (d.name, d.axes)) = outputs.entries.map fun e => (e.1, e.2.axes.keys)

theorem map_createAll {host : Host} :
    ∀ {entries : List (String × Output)} {created virtual : List VirtualDevice} {j j' : Journal},
      createAll host created j entries = (.ok virtual, j') →
      virtual.map (fun d => (d.name, d.axes)) =
        created.map (fun d => (d.name, d.axes)) ++ entries.map fun e => (e.1, e.2.axes.keys)
  | [], created, virtual, j, j', h => by
      cases h
      exact (List.append_nil _).symm
  | (name, output) :: rest, created, virtual, j, j', h => by
      rw [createAll] at h
      split at h
      · next d j₁ hd =>
          have hmake : (d.name, d.axes) = (name, output.axes.keys) := by
            unfold VirtualDevice.create at hd
            split at hd <;> cases hd
            rfl
          rw [map_createAll h, List.map_append, List.append_assoc, List.map_cons, List.map_nil,
            hmake, List.map_cons]
          rfl
      · cases h

/-- The virtual devices that a session creates are those of its configuration. -/
theorem realizes_of_createAll {host : Host} {outputs : OrderedMap String Output}
    {virtual : List VirtualDevice} {j j' : Journal}
    (h : createAll host [] j outputs.entries = (.ok virtual, j')) : Realizes virtual outputs :=
  map_createAll h

theorem opened_of_openAt {host : Host} (hh : host.Foreign) {name path : String}
    {d : PhysicalDevice} {j j' : Journal}
    (h : PhysicalDevice.openAt host name path j = (.ok d, j')) :
    d.name = name ∧ d.device.Foreign := by
  rw [PhysicalDevice.openAt, Host.openDevice] at h
  cases ho : host.opening j.deeds path with
  | ok device =>
      rw [ho] at h
      cases h
      have hf : device.Foreign := hh.opening ho
      exact ⟨rfl, hf⟩
  | error e =>
      rw [ho] at h
      cases e <;> cases h

theorem opened_of_openOne {host : Host} (hh : host.Foreign)
    {found? found'? : Option Discovery.Found} {name : String} {matcher : Matcher}
    {d : PhysicalDevice} {j j' : Journal}
    (h : openOne host found? name matcher j = (.ok d, found'?, j')) :
    d.name = name ∧ d.device.Foreign := by
  rw [openOne] at h
  split at h
  · cases h
  · next path found? j₁ _ =>
      simp only [Prod.mk.injEq] at h
      exact opened_of_openAt hh (Prod.ext h.1 rfl)

/-- The physical devices that a session opens have the names of its configuration, in their order,
and fail only as the operating system does. -/
theorem opened_of_openAll {host : Host} (hh : host.Foreign) :
    ∀ {entries : List (String × Matcher)} {found? : Option Discovery.Found}
      {opened physical : List PhysicalDevice} {j j' : Journal},
      openAll host found? opened j entries = (.ok physical, j') →
      (∀ d ∈ opened, d.device.Foreign) →
      physical.map PhysicalDevice.name = opened.map PhysicalDevice.name ++ entries.map Prod.fst ∧
        ∀ d ∈ physical, d.device.Foreign
  | [], found?, opened, physical, j, j', h, hf => by
      cases h
      exact ⟨(List.append_nil _).symm, hf⟩
  | (name, matcher) :: rest, found?, opened, physical, j, j', h, hf => by
      rw [openAll] at h
      split at h
      · next d found'? j₁ hd =>
          obtain ⟨rfl, hforeign⟩ := opened_of_openOne hh hd
          obtain ⟨hnames, hall⟩ := opened_of_openAll hh h
            (List.forall_mem_append.mpr ⟨hf, List.forall_mem_singleton.mpr hforeign⟩)
          refine ⟨?_, hall⟩
          rw [hnames, List.map_append, List.append_assoc]
          rfl
      · next e _ j₁ _ =>
          -- releasing the devices does not undo the failure
          split at h
          · rcases hc : closeAll j₁ opened with ⟨_ | ⟨⟩, j₂⟩ <;> rw [hc] at h <;> cases h
          · cases h

/-! ### Reading and writing -/

variable {host : Host} {virtual : List VirtualDevice} {w w' : World}

/-- What can keep a virtual axis from being recomputed. -/
inductive Trouble (host : Host) (virtual : List VirtualDevice) (w : World) : Failure → Prop
  /-- The expression divides by zero. -/
  | division (expr : Expr) : Trouble host virtual w (.propagation (.divisionByZero expr))
  /-- The operating system refuses to read an axis of a physical device. -/
  | reading {d : PhysicalDevice} {axis : Axis} {e : SystemError} (hd : d ∈ w.physical)
      (h : d.device.valueOf axis.code = .error (.system e)) :
      Trouble host virtual w (.propagation (.readFailed ⟨d.name, axis⟩ e.message))
  /-- The operating system refuses to write an axis of a virtual device. -/
  | writing {d : VirtualDevice} {axis : Axis} {e : SystemError} (hd : d ∈ virtual)
      (h : host.writing w.journal.deeds d.label axis.code = some (.system e)) :
      Trouble host virtual w (.propagation (.writeFailed ⟨d.name, axis⟩ e.message))
  /-- A device fails in a way that is no error of one axis, and that the engine lets pass. -/
  | foreign {e : Failure} (h : e.isOwn = false) : Trouble host virtual w e

/-- No trouble is internal. -/
theorem Trouble.isInternal {e : Failure} (h : Trouble host virtual w e) : e.isInternal = false := by
  cases h with
  | division expr => rfl
  | reading hd h =>
      rw [Failure.isInternal, Bool.or_eq_false_iff, beq_eq_false_iff_ne, beq_eq_false_iff_ne]
      exact ⟨SystemError.message_ne _ (by decide), SystemError.message_ne _ (by decide)⟩
  | writing hd h => exact beq_eq_false_iff_ne.mpr (SystemError.message_ne _ (by decide))
  | foreign h => cases e <;> first | rfl | cases h

theorem supports_eq (physical : List PhysicalDevice) (name : String) (axis : Axis) :
    (view physical).supports name axis =
      ((physical.map PhysicalDevice.make).find? fun m => m.1 == name).any fun m =>
        m.2.contains axis.code := by
  rw [List.find?_map, Option.any_map]
  rfl

theorem trouble_of_read (hf : ∀ d ∈ w.physical, d.device.Foreign) {name : String} {axis : Axis}
    (hs : (view w.physical).supports name axis = true) {e : Failure}
    (h : read name axis w = (.error e, w')) : Trouble host virtual w' e := by
  cases hd : named? w.physical name with
  | none => simp [view, hd] at hs
  | some d =>
      have hsupports : d.supports axis = true := by simpa [view, hd] using hs
      have hmem : d ∈ w.physical := List.mem_of_find?_eq_some hd
      simp only [read, hd, Prod.mk.injEq] at h
      obtain ⟨h, rfl⟩ := h
      rw [PhysicalDevice.read, if_pos hsupports] at h
      cases hv : d.device.valueOf axis.code with
      | ok n => rw [hv] at h; cases h
      | error e' =>
          have hforeign : e'.isOwn = false := by
            unfold EventDevice.valueOf at hv
            split at hv
            · next hfault =>
                cases hv
                exact hf d hmem _ _ hfault
            · cases hv
          rw [hv] at h
          cases e' with
          | system s => cases h; exact .reading hmem hv
          | _ => cases h; exact .foreign hforeign

theorem trouble_of_write (hh : host.Foreign) {d : VirtualDevice} (hd : d ∈ virtual) {axis : Axis}
    (haxis : axis ∈ d.axes) {n : Int} {e : Failure}
    (h : write host d axis n w = (.error e, w')) : Trouble host virtual w' e := by
  have hcontains : d.axes.contains axis = true := List.contains_iff_mem.mpr haxis
  cases hw : host.writing w.journal.deeds d.label axis.code with
  | none =>
      simp only [write, VirtualDevice.write, hcontains, if_true, hw] at h
      cases h
  | some e' =>
      have hforeign := hh.writing hw
      cases e' with
      | system s =>
          simp only [write, VirtualDevice.write, hcontains, if_true, hw] at h
          cases h
          exact .writing hd hw
      | _ =>
          simp only [write, VirtualDevice.write, hcontains, if_true, hw] at h
          cases h
          exact .foreign hforeign

theorem world_of_reads (h : Engine.Reads (access host) w w') : w' = w := by
  induction h with
  | refl => rfl
  | more h _ ih =>
      rw [ih, ← h]
      unfold access read
      dsimp only
      split <;> rfl

theorem physical_write (host : Host) (d : VirtualDevice) (axis : Axis) (n : Int) (w : World) :
    (write host d axis n w).2.physical = w.physical := rfl

/-! ### One virtual axis -/

section Axis

variable {virtual : List VirtualDevice} {outs : OrderedMap String Output}
  {physical : List PhysicalDevice} {graph : Graph String} {arena : List VirtualDevice}

theorem names_of_realizes (hv : Realizes virtual outs) :
    virtual.map VirtualDevice.name = outs.keys := by
  have hnames := congrArg (List.map Prod.fst) hv
  rw [List.map_map, List.map_map] at hnames
  exact hnames

/-- Nothing is lost when the virtual devices are put under their names. -/
theorem keys_outputs (hv : Realizes virtual outs) : (outputs virtual).keys = outs.keys := by
  have hkeys : (virtual.map fun d => (d.name, d)).map Prod.fst = outs.keys := by
    rw [List.map_map]
    exact names_of_realizes hv
  have hnodup : ((virtual.map fun d => (d.name, d)).map Prod.fst).Nodup := hkeys ▸ outs.nodup
  rw [OrderedMap.keys, outputs, OrderedMap.entries_ofList hnodup, hkeys]

/-- There is a virtual device for each of the outputs. -/
theorem arenaOf_outputs (hv : Realizes virtual outs) (hd : graph.devices = outs.keys) :
    ∃ arena, Engine.arenaOf graph (outputs virtual) = .ok arena := by
  have hnone : Engine.missingOutputs graph (outputs virtual) = [] := by
    rw [Engine.missingOutputs, List.filter_eq_nil_iff]
    intro name hname
    have hcontains : (outputs virtual).contains name = true :=
      (OrderedMap.contains_iff _).mpr (keys_outputs hv ▸ hd ▸ hname)
    rw [hcontains]
    exact Bool.false_ne_true
  exact ⟨_, by rw [Engine.arenaOf, hnone]⟩

/-- The virtual device of an output has its axes. -/
theorem axes_of_realizes (hv : Realizes virtual outs) {d : VirtualDevice} (hd : d ∈ virtual)
    {output : Output} (ho : (d.name, output) ∈ outs.entries) : d.axes = output.axes.keys := by
  have hmem : (d.name, d.axes) ∈ virtual.map fun d => (d.name, d.axes) :=
    List.mem_map.mpr ⟨d, hd, rfl⟩
  rw [hv] at hmem
  obtain ⟨⟨name, output'⟩, he, heq⟩ := List.mem_map.mp hmem
  obtain ⟨hname, haxes⟩ := Prod.mk.inj heq
  dsimp only at hname haxes
  rw [hname] at he
  have hfound := outs.find?_eq_some_iff.mpr ho
  rw [outs.find?_eq_some_iff.mpr he] at hfound
  rw [← haxes, Option.some.inj hfound]

/-- **One virtual axis.**  If it is not recomputed, there is a trouble. -/
theorem trouble_of_ending (hh : host.Foreign) (hv : Realizes virtual outs)
    (hg : (Graph.build (view physical) (sources physical) outs).1 = .ok graph)
    (ha : Engine.arenaOf graph (outputs virtual) = .ok arena) {v : VirtAxis}
    (hmem : v ∈ Graph.axesOfAll outs)
    (hmake : w.physical.map PhysicalDevice.make = physical.map PhysicalDevice.make)
    (hf : ∀ d ∈ w.physical, d.device.Foreign) {e : Failure}
    (h : Engine.Ending (access host) graph arena v w (.error e) w') :
    Trouble host virtual w' e := by
  obtain ⟨hsources, -⟩ := Graph.of_build hg
  obtain ⟨d, hd, hplace⟩ := Engine.outputAt_arenaOf hg ha hmem
  cases h with
  | @unread k _ _ hk hreads hfails =>
      obtain ⟨source, hprovider⟩ := Graph.provider_of_build hg hmem hk
      have hfind := Graph.find?_of_provider hprovider
      -- the dependency was checked when the graph was built
      cases hfails with
      | undefined hnone =>
          rw [hsources, hfind] at hnone
          cases hnone
      | @device source' _ w₀ hs h =>
          rw [hsources, hfind] at hs
          cases hs
          have hw : w' = w := world_of_reads hreads
          have hw₀ : w' = w₀ := world_of_reads (.one h)
          subst hw
          subst hw₀
          refine trouble_of_read hf ?_ h
          rw [supports_eq, hmake, ← supports_eq]
          exact Graph.supports_of_provider hprovider
  | valueless hknown _ h =>
      -- the dependencies are all that the expression asks for
      obtain ⟨division, rfl⟩ :=
        Expr.evaluate_error h fun k hk => Bindings.ofList_ne_none (hknown k hk)
      exact .division division
  | outputless _ hnone =>
      rw [hplace] at hnone
      cases hnone
  | @written output n w₁ _ _ _ ho h =>
      rw [hplace] at ho
      cases ho
      -- the output at the place is the virtual device of this name, with the axes of its output
      obtain ⟨d', hd', heq⟩ := List.mem_map.mp (OrderedMap.mem_of_find?_ofList hd)
      obtain ⟨hname, rfl⟩ := Prod.mk.inj heq
      obtain ⟨output, hentry, haxis⟩ := Graph.mem_axes_of_mem_axesOfAll hmem
      rw [← hname] at hentry
      rw [← axes_of_realizes hv hd' hentry] at haxis
      exact trouble_of_write hh hd' haxis h

end Axis

/-! ### Updates -/

/-- Recomputing a virtual axis leaves the physical devices as they are. -/
theorem physical_of_ending {graph : Graph String} {arena : List VirtualDevice} {v : VirtAxis}
    {r : Except Failure Unit} (h : Engine.Ending (access host) graph arena v w r w') :
    w'.physical = w.physical := by
  cases h with
  | unread _ hreads => rw [world_of_reads hreads]
  | valueless _ hreads => rw [world_of_reads hreads]
  | outputless hreads => rw [world_of_reads hreads]
  | @written output n w₁ _ _ hreads _ h =>
      have hwritten : (write host output v.key.axis n w₁).2 = w' := congrArg Prod.snd h
      rw [← world_of_reads hreads, ← hwritten, physical_write]

/-- A pass leaves the physical devices as they are, and so each mishap finds them. -/
theorem physical_of_pass {graph : Graph String} {arena : List VirtualDevice} {failFast : Bool}
    {update : Update} {vs : List VirtAxis} {run last : Engine.Run String VirtualDevice World}
    {mishaps : List (Engine.Mishap World)} {r : Except Failure Nat}
    (h : Engine.Pass (access host) graph arena failFast update vs run mishaps r last) :
    last.world.physical = run.world.physical ∧ ∀ m ∈ mishaps, m.axis ∈ vs ∧
      ∃ w₀ : World, w₀.physical = run.world.physical ∧
        Engine.Ending (access host) graph arena m.axis w₀ (.error m.cause) m.world :=
  h.mishaps (P := fun w => w.physical = run.world.physical)
    (fun _ _ _ _ hend hw => (physical_of_ending hend).trans hw) rfl

/-- Updates are handled one after another, whatever comes of each.  Before and after each of them
the physical devices may come to be in another state, and anything may be done elsewhere. -/
inductive Serving (host : Host) :
    Engine.Run String VirtualDevice World → Engine.Run String VirtualDevice World → Prop
  | refl (run : Engine.Run String VirtualDevice World) : Serving host run run
  | handled {run last : Engine.Run String VirtualDevice World} (update : Update)
      (t : Serving host ((Engine.handle (access host) update).outcome run).2 last) :
      Serving host run last
  | turned {run last : Engine.Run String VirtualDevice World} {world : World}
      (h : List.Forall₂ PhysicalDevice.Stays run.world.physical world.physical)
      (t : Serving host { run with world } last) : Serving host run last

/-- The engine has this graph and these outputs, and works on these physical devices in some state
of theirs. -/
structure Fits (graph : Graph String) (arena : List VirtualDevice) (physical : List PhysicalDevice)
    (run : Engine.Run String VirtualDevice World) : Prop where
  graph : run.engine.graph = graph
  arena : run.engine.arena = arena
  makes : run.world.physical.map PhysicalDevice.make = physical.map PhysicalDevice.make
  foreign : ∀ d ∈ run.world.physical, d.device.Foreign

section Updates

variable {graph : Graph String} {arena : List VirtualDevice} {physical : List PhysicalDevice}
  {outs : OrderedMap String Output} {run last : Engine.Run String VirtualDevice World}

theorem fits_handle (h : Fits graph arena physical run) (update : Update) :
    Fits graph arena physical ((Engine.handle (access host) update).outcome run).2 := by
  rcases hr : (Engine.handle (access host) update).outcome run with ⟨r, next⟩
  rcases Engine.handle_cases hr with
    ⟨-, -, hworld, hengine⟩ | ⟨real, mishaps, last, -, hpass, rfl⟩
  · exact ⟨by rw [hengine]; exact h.graph, by rw [hengine]; exact h.arena,
      by rw [hworld]; exact h.makes, by rw [hworld]; exact h.foreign⟩
  · obtain ⟨f, hengine, -⟩ := Engine.account_pass hpass
    obtain ⟨hphysical, -⟩ := physical_of_pass hpass
    have hcredited : (Engine.credited (Engine.reported r) last).world.physical =
        run.world.physical := hphysical
    refine ⟨?_, ?_, hcredited ▸ h.makes, hcredited ▸ h.foreign⟩
    · rw [Engine.credited, hengine]
      exact h.graph
    · rw [Engine.credited, hengine]
      exact h.arena

theorem fits_serving (t : Serving host run last) (h : Fits graph arena physical run) :
    Fits graph arena physical last := by
  induction t with
  | refl => exact h
  | handled update _ ih => exact ih (fits_handle h update)
  | turned hstays _ ih =>
      exact ih ⟨h.graph, h.arena, (PhysicalDevice.map_make_of_stays hstays).trans h.makes,
        PhysicalDevice.foreign_of_stays hstays h.foreign⟩

/-- **One update.**  Each mishap is due to a trouble. -/
theorem trouble_of_meets (hh : host.Foreign) (hv : Realizes virtual outs)
    (hg : (Graph.build (view physical) (sources physical) outs).1 = .ok graph)
    (ha : Engine.arenaOf graph (outputs virtual) = .ok arena)
    (hfits : Fits graph arena physical run)
    {update : Update} {mishaps : List (Engine.Mishap World)} {r : Except Failure Nat}
    (h : Engine.Meets (access host) update run mishaps r) :
    ∀ m ∈ mishaps, Trouble host virtual m.world m.cause := by
  cases h with
  | ignored => exact fun m hm => absurd hm List.not_mem_nil
  | @taken real _ _ _ hreal hpass =>
      rw [hfits.graph] at hreal hpass
      rw [hfits.arena] at hpass
      obtain ⟨-, hall⟩ := physical_of_pass hpass
      intro m hm
      obtain ⟨haxis, w₀, hw₀, hend⟩ := hall m hm
      have hmem := (Graph.mem_dependents.mp
        (Graph.mem_dependents_of_downstream hg hreal haxis)).1
      exact trouble_of_ending hh hv hg ha hmem (hw₀ ▸ hfits.makes) (hw₀ ▸ hfits.foreign) hend

/-- **What can go wrong.**  Physical devices are opened as a configuration says, the graph is built,
and the virtual devices are created.  Then the engine comes into being, and whatever updates it
handles while the physical devices change, each virtual axis that is not recomputed has met with a
division by zero or with a failure of the operating system, none of which is internal.  If the
update fails altogether, it does so because of one of these. -/
theorem troubles_of_serving (hh : host.Foreign) {config : Config} {found? : Option Discovery.Found}
    {j₀ j₁ j₂ j₃ : Journal}
    (hopen : openAll host found? [] j₀ config.physical.entries = (.ok physical, j₁))
    (hg : (Graph.build (view physical) (sources physical) config.virtual).1 = .ok graph)
    (hcreate : createAll host [] j₂ config.virtual.entries = (.ok virtual, j₃))
    (failFast : Bool) (journal : Journal) (log : Log) :
    ∃ engine, Engine.create graph (outputs virtual) failFast = .ok engine ∧
      ∀ run, Serving host ⟨engine, ⟨physical, journal⟩, log⟩ run → ∀ update,
        ∃ mishaps,
          Engine.Meets (access host) update run mishaps
            ((Engine.handle (access host) update).outcome run).1 ∧
          (∀ e, ((Engine.handle (access host) update).outcome run).1 = .error e →
            ∃ m ∈ mishaps, m.cause = e) ∧
          ∀ m ∈ mishaps, Trouble host virtual m.world m.cause ∧ m.cause.isInternal = false := by
  have hforeign : ∀ d ∈ physical, d.device.Foreign :=
    (opened_of_openAll hh hopen fun d hd => absurd hd List.not_mem_nil).2
  have hv : Realizes virtual config.virtual := realizes_of_createAll hcreate
  obtain ⟨-, hdevices, -⟩ := Graph.of_build hg
  obtain ⟨arena, ha⟩ := arenaOf_outputs hv hdevices
  refine ⟨⟨graph, arena, failFast, {}⟩, by rw [Engine.create, ha]; rfl, fun run t update => ?_⟩
  have hfits : Fits graph arena physical run := fits_serving t ⟨rfl, rfl, rfl, hforeign⟩
  obtain ⟨mishaps, hmeets⟩ := Engine.exists_meets (access host) update run
  refine ⟨mishaps, hmeets, fun e he => hmeets.exists_mishap he, fun m hm => ?_⟩
  have htrouble := trouble_of_meets hh hv hg ha hfits hmeets m hm
  exact ⟨htrouble, htrouble.isInternal⟩

/-- A device with the axes `X` and `Y`, which loses the second one before it reports the first. -/
def worn : EventDevice where
  path := ""
  label := ""
  vendor := 0
  product := 0
  codes := [Axis.x.code, Axis.y.code]
  values _ := 0
  faults _ := none
  incidents := [.faulted Axis.y.code (some ⟨5, "Input/output error", none⟩),
    .event ⟨InputEvent.position, Axis.x.code, 0⟩]
  ending := none
  closeFault := none

/-- A host with this device, on which the axis `RX` of a virtual device cannot be written. -/
def wornHost : Host where
  listed := []
  opening _ _ := .ok worn
  creating _ _ := none
  writing _ _ code := if code = Axis.rx.code then some (.system .permissionDenied) else none

theorem foreign_wornHost : wornHost.Foreign where
  opening h := by
    cases h
    exact fun code e he => by cases he
  writing h := by
    simp only [wornHost] at h
    split at h <;> cases h
    rfl

/-- The device `A`, and a virtual device with the axes `1 / A:X`, `A:X + A:Y`, `A:X` and `A:X`. -/
def wornConfig : Config where
  physical := .ofList [("A", .atPath "/dev/input/event0")]
  virtual := .ofList [("out", {
    axes := .ofList [(.x, Rig.ruleOf (.binary .div (.lit 1) (.ref ⟨"A", .x⟩))),
      (.y, Rig.ruleOf (.binary .add (.ref ⟨"A", .x⟩) (.ref ⟨"A", .y⟩))),
      (.rx, Rig.ruleOf (.ref ⟨"A", .x⟩)), (.z, Rig.ruleOf (.ref ⟨"A", .x⟩))]
    name := ""
    vendor := 0
    product := 0 })]

/-- The first axis divides by zero, the second one cannot be read any more, the third one cannot be
written, and the last one is served. -/
theorem troubles_of_serving_worn :
    ∃ d virtual graph engine,
      (openAll wornHost none [] {} wornConfig.physical.entries).1 = .ok [d] ∧
      (Graph.build (view [d]) (sources [d]) wornConfig.virtual).1 = .ok graph ∧
      (createAll wornHost [] {} wornConfig.virtual.entries).1 = .ok virtual ∧
      Engine.create graph (outputs virtual) false = .ok engine ∧
      (d.next {}).result = .ok (some ⟨⟨"A", .x⟩, 0⟩) ∧
      let run : Engine.Run String VirtualDevice World :=
        ⟨engine, ⟨[(d.next {}).device], {}⟩, #[]⟩
      let outcome := (Engine.handle (access wornHost) ⟨⟨"A", .x⟩, 0⟩).outcome run
      outcome.2.engine.stats = ⟨1, 0, 1, 3⟩ ∧
      ∃ mishaps, Engine.Meets (access wornHost) ⟨⟨"A", .x⟩, 0⟩ run mishaps outcome.1 ∧
        ∀ m ∈ mishaps, Trouble wornHost virtual m.world m.cause ∧ m.cause.isInternal = false := by
  refine ⟨_, _, _, _, rfl, rfl, rfl, rfl, rfl, by decide +kernel, ?_⟩
  obtain ⟨engine, he, hall⟩ := @troubles_of_serving _ _ _ _ foreign_wornHost wornConfig none
    {} _ {} _ rfl rfl rfl false {} #[]
  cases he
  have hnext (d : PhysicalDevice) (engine : Engine String VirtualDevice) : Serving wornHost
      ⟨engine, ⟨[d], {}⟩, #[]⟩ ⟨engine, ⟨[(d.next {}).device], {}⟩, #[]⟩ :=
    .turned (.cons (d.stays_next {}) .nil) (.refl _)
  obtain ⟨mishaps, hmeets, -, htroubles⟩ := hall _ (hnext _ _) ⟨⟨"A", .x⟩, 0⟩
  exact ⟨mishaps, hmeets, htroubles⟩

end Updates

/-! ### Whole sessions -/

theorem stays_forward (r : Relay PhysicalDevice) :
    PhysicalDevice.Stays r.device (Listener.forward source r).2.device := by
  fun_induction Listener.forward source r with
  | case1 r h => exact r.device.stays_next r.journal
  | case2 r e h => exact r.device.stays_next r.journal
  | case3 r u h o ih => exact .trans (r.device.stays_next r.journal) ih

/-- Listeners leave the devices their names and their axes. -/
theorem stays_runAll :
    ∀ (c : Channel) (j : Journal) (ds : List PhysicalDevice),
      List.Forall₂ PhysicalDevice.Stays ds (Listener.runAll source c j ds).1
  | _, _, [] => .nil
  | c, j, d :: rest => by
      have hd : PhysicalDevice.Stays d (Listener.run source ⟨d, c, j⟩).device :=
        stays_forward { device := d, channel := c, journal := Listener.begin (source.name d) j }
      exact .cons hd (stays_runAll _ _ rest)

/-- Handling updates one after another fails with one of them. -/
theorem serving_of_handleAll {e : Failure} :
    ∀ {updates : List Update} {run last : Engine.Run String VirtualDevice World},
      (Engine.handleAll (access host) updates).outcome run = (.error e, last) →
      ∃ run' update, Serving host run run' ∧
        ((Engine.handle (access host) update).outcome run').1 = .error e
  | [], run, last, h => by cases h
  | update :: rest, run, last, h => by
      rw [Engine.handleAll, Engine.Step.outcome_bind] at h
      rcases hr : (Engine.handle (access host) update).outcome run with ⟨e' | n, next⟩
      · rw [hr] at h
        cases h
        exact ⟨run, update, .refl run, by rw [hr]⟩
      · rw [hr, Engine.Step.andThen_ok] at h
        obtain ⟨run', update', t, he⟩ := serving_of_handleAll h
        exact ⟨run', update', .handled update (by rw [hr]; exact t), he⟩

/-- Propagating fails with one of the updates. -/
theorem serving_of_propagate {engine : Engine String VirtualDevice}
    {physical physical' : List PhysicalDevice} {j j' : Journal} {e : Failure}
    (h : propagate host engine physical j = (.error e, physical', j')) :
    ∃ run update, Serving host ⟨engine, ⟨physical, j⟩, #[]⟩ run ∧
      ((Engine.handle (access host) update).outcome run).1 = .error e := by
  have hstays := stays_runAll { producers := physical.length } j physical
  rcases hl : Listener.runAll source { producers := physical.length } j physical with
    ⟨listened, channel, j₁⟩
  rw [hl] at hstays
  simp only [propagate, hl] at h
  rcases hall : (Engine.handleAll (access host) channel.drain.1).run
    ⟨engine, ⟨listened, note j₁ .info (startMessage engine.graph)⟩, #[]⟩ with ⟨e' | ⟨⟩, last⟩
  · rw [hall] at h
    cases h
    obtain ⟨run, update, t, he⟩ := serving_of_handleAll hall
    exact ⟨run, update, .turned hstays t, he⟩
  · rw [hall] at h
    cases h

/-- **What ends a session.**  If what a session does with its physical devices fails, the
dependencies are at fault, a virtual device cannot be created, or there is a trouble. -/
theorem serve_error (hh : host.Foreign) {config : Config} {failFast : Bool}
    {physical : List PhysicalDevice} (hf : ∀ d ∈ physical, d.device.Foreign) {held : Held}
    {j j' : Journal} {e : Failure}
    (h : serve host config failFast physical j = (.error e, held, j')) :
    (∃ cause, e = .configuration (.dependency cause)) ∨
      (∃ j₁ j₂, createAll host [] j₁ config.virtual.entries = (.error e, j₂)) ∨
      ∃ w, Trouble host held.virtual w e := by
  rw [serve] at h
  rcases hg : Graph.build (view physical) (sources physical) config.virtual with
    ⟨cause | graph, log⟩
  · rw [hg] at h
    cases h
    exact .inl ⟨cause, rfl⟩
  · rw [hg] at h
    rcases hc : createAll host [] (j.append log) config.virtual.entries with ⟨e' | virtual, j₂⟩
    · simp only [hc] at h
      cases h
      exact .inr (.inl ⟨_, _, hc⟩)
    · have hv : Realizes virtual config.virtual := realizes_of_createAll hc
      have hbuilt : (Graph.build (view physical) (sources physical) config.virtual).1 =
          .ok graph := by rw [hg]
      obtain ⟨arena, ha⟩ := arenaOf_outputs hv (Graph.of_build hbuilt).2.1
      simp only [hc, Engine.create, ha, Except.map] at h
      rcases hp : propagate host ⟨graph, arena, failFast, {}⟩ physical j₂ with
        ⟨result, physical', j₃⟩
      rw [hp] at h
      cases h
      obtain ⟨run, update, t, he⟩ := serving_of_propagate hp
      have hfits : Fits graph arena physical run := fits_serving t ⟨rfl, rfl, rfl, hf⟩
      obtain ⟨mishaps, hmeets⟩ := Engine.exists_meets (access host) update run
      obtain ⟨m, hm, rfl⟩ := hmeets.exists_mishap he
      exact .inr (.inr ⟨m.world, trouble_of_meets hh hv hbuilt ha hfits hmeets m hm⟩)

end Session

end AxisMixer
