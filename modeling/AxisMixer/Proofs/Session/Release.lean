import AxisMixer.Proofs.Device.Discovery
import AxisMixer.Proofs.Session.Failures

/-!
# Sessions — what is acquired is released

Which devices a session has to release depends on how far it comes.  While devices are being opened
or created, those of the same kind are released where the failure happens; behind that, at the end
of the session.  A `Ledger` writes down what was acquired, and the deeds of the session follow from
it alone, whatever the outcome is.

* `Deed.isUse`: the deeds that acquire and release nothing.
* `EventDevice.Tame`, `Host.Orderly`: nothing goes wrong that nobody can foresee.
* `Session.Gets`, `Session.Opens`: which physical devices are opened, and what is done for it.
* `Session.Serves`: what is done with them.
* `Session.Ledger`: the deeds of a session.
* `Session.run_releases`: the deeds of every session are those of a ledger.
-/

namespace AxisMixer

/-! ### Deeds -/

namespace Deed

/-- The deed uses a virtual device that is there. -/
def isUse : Deed → Bool
  | wrote _ _ _ | reported _ => true
  | _ => false

/-- The path of the event device that is opened. -/
def openedAt? : Deed → Option String
  | opened path => some path
  | _ => none

/-- The path of the event device that is closed. -/
def closedAt? : Deed → Option String
  | closed path => some path
  | _ => none

/-- The name of the virtual device that appears. -/
def createdAs? : Deed → Option String
  | created label _ _ _ => some label
  | _ => none

/-- The name of the virtual device that disappears. -/
def destroyedAs? : Deed → Option String
  | destroyed label => some label
  | _ => none

/-- By its use no device is acquired or released. -/
theorem none_of_isUse {deed : Deed} (h : deed.isUse = true) :
    deed.openedAt? = none ∧ deed.closedAt? = none ∧ deed.createdAs? = none ∧
      deed.destroyedAs? = none := by
  cases deed with
  | wrote | reported => exact ⟨rfl, rfl, rfl, rfl⟩
  | _ => cases h

end Deed

/-- Between the two journals exactly these deeds were done. -/
def Journal.Did (j : Journal) (deeds : List Deed) (j' : Journal) : Prop :=
  j'.deeds.toList = j.deeds.toList ++ deeds

namespace Journal

variable {j j' j'' : Journal}

theorem Did.of_eq (h : j'.deeds = j.deeds) : Did j [] j' := by
  rw [Did, h, List.append_nil]

theorem Did.one (j : Journal) (deed : Deed) : Did j [deed] (j.did deed) :=
  Array.toList_push

theorem Did.trans {deeds deeds' : List Deed} (h : Did j deeds j') (h' : Did j' deeds' j'') :
    Did j (deeds ++ deeds') j'' := by
  rw [Did, h', h, List.append_assoc]

end Journal

open Journal (Did)

/-! ### Devices that can be closed -/

/-- The operating system may object to closing the device, but nothing worse happens then, and
nobody closes it while its stream is read. -/
structure EventDevice.Tame (d : EventDevice) : Prop where
  closing : ∀ {e}, d.closeFault = some e → ∃ s, e = .system s
  undisturbed : .closed ∉ d.incidents

namespace PhysicalDevice

/-- The second device is the first one in another state, and nothing was done to any device. -/
structure Keeps (d : PhysicalDevice) (j : Journal) (d' : PhysicalDevice) (j' : Journal) : Prop where
  path : d'.device.path = d.device.path
  closeFault : d'.device.closeFault = d.device.closeFault
  deeds : j'.deeds = j.deeds

variable {d d' d'' : PhysicalDevice} {j j' j'' : Journal}

theorem Keeps.refl (d : PhysicalDevice) (j : Journal) : Keeps d j d j := ⟨rfl, rfl, rfl⟩

theorem Keeps.trans (h : Keeps d j d' j') (h' : Keeps d' j' d'' j'') : Keeps d j d'' j'' :=
  ⟨h'.path.trans h.path, h'.closeFault.trans h.closeFault, h'.deeds.trans h.deeds⟩

theorem keeps_resynchronize (d : PhysicalDevice) (j : Journal) (axes : List Axis) :
    Keeps d j (d.resynchronize j axes).device (d.resynchronize j axes).journal := by
  fun_induction resynchronize d j axes with
  | case1 d j => exact .refl d j
  | case2 d j a rest value _ ih => exact ⟨ih.path, ih.closeFault, ih.deeds⟩
  | case3 d j a rest e _ key message ih => exact ⟨ih.path, ih.closeFault, ih.deeds⟩
  | case4 d j => exact .refl d j

theorem keeps_takeEvent (d : PhysicalDevice) (j : Journal) (e : InputEvent) :
    Keeps d j (d.takeEvent j e).device (d.takeEvent j e).journal := by
  unfold takeEvent takePosition
  split
  · exact ⟨rfl, rfl, rfl⟩
  · split
    · split
      · have h := keeps_resynchronize { d with isDropping := false } j d.axes
        exact ⟨h.path, h.closeFault, h.deeds⟩
      · exact .refl d j
    · split
      · split <;> exact ⟨rfl, rfl, rfl⟩
      · exact .refl d j

theorem keeps_take (d : PhysicalDevice) (j : Journal) {incident : Incident}
    (h : incident ≠ .closed) :
    Keeps d j (d.take j incident).device (d.take j incident).journal := by
  cases incident with
  | event e => exact keeps_takeEvent d j e
  | moved code value => exact ⟨rfl, rfl, rfl⟩
  | faulted code fault => exact ⟨rfl, rfl, rfl⟩
  | closed => exact absurd rfl h

theorem keeps_advance (d : PhysicalDevice) (j : Journal) (incidents : List Incident)
    (h : .closed ∉ incidents) :
    Keeps d j (d.advance j incidents).device (d.advance j incidents).journal ∧
      (d.advance j incidents).device.device.incidents ⊆ incidents := by
  fun_induction advance d j incidents with
  | case1 d j =>
    unfold finish
    dsimp only
    split <;> exact ⟨⟨rfl, rfl, rfl⟩, List.nil_subset _⟩
  | case2 d j incident rest o e he =>
    have ho := keeps_take d j (List.ne_of_not_mem_cons h).symm
    exact ⟨ho.trans ⟨rfl, rfl, rfl⟩, List.subset_cons_self _ _⟩
  | case3 d j incident rest o update pending =>
    have ho := keeps_take d j (List.ne_of_not_mem_cons h).symm
    exact ⟨ho.trans ⟨rfl, rfl, rfl⟩, List.subset_cons_self _ _⟩
  | case4 d j incident rest o hp hr ih =>
    have ho := keeps_take d j (List.ne_of_not_mem_cons h).symm
    obtain ⟨hkeeps, hsub⟩ := ih (List.not_mem_of_not_mem_cons h)
    exact ⟨ho.trans hkeeps, List.subset_cons_of_subset _ hsub⟩

theorem deeds_settle (o : Outcome PhysicalDevice (Option Update)) :
    (settle o).journal.deeds = o.journal.deeds := by
  unfold settle
  split
  · rfl
  · split <;> rfl

/-- Reading the stream of a device that stays open does nothing to it. -/
theorem keeps_next (d : PhysicalDevice) (j : Journal) (h : d.device.Tame) :
    Keeps d j (d.next j).device (d.next j).journal ∧ (d.next j).device.device.Tame := by
  have htame : ∀ {d' : PhysicalDevice} {j'}, Keeps d j d' j' →
      d'.device.incidents ⊆ d.device.incidents → d'.device.Tame := fun hk hsub =>
    ⟨fun he => h.closing (hk.closeFault ▸ he), fun hc => h.undisturbed (hsub hc)⟩
  unfold next
  split
  · exact ⟨⟨rfl, rfl, rfl⟩, ⟨h.closing, h.undisturbed⟩⟩
  · split
    · exact ⟨.refl d j, h⟩
    · obtain ⟨hkeeps, hsub⟩ := keeps_advance d j d.device.incidents h.undisturbed
      have hsettled : Keeps d j (settle (d.advance j d.device.incidents)).device
          (settle (d.advance j d.device.incidents)).journal := by
        refine ⟨?_, ?_, (deeds_settle _).trans hkeeps.deeds⟩
        · rw [device_settle, hkeeps.path]
        · rw [device_settle, hkeeps.closeFault]
      exact ⟨hsettled, htame hsettled (by rw [device_settle]; exact hsub)⟩

end PhysicalDevice

namespace Session

/-! ### Listening -/

theorem keeps_forward (r : Relay PhysicalDevice) (h : r.device.device.Tame) :
    PhysicalDevice.Keeps r.device r.journal (Listener.forward source r).2.device
        (Listener.forward source r).2.journal ∧
      (Listener.forward source r).2.device.device.Tame := by
  fun_induction Listener.forward source r with
  | case1 r hr => exact r.device.keeps_next r.journal h
  | case2 r e hr => exact r.device.keeps_next r.journal h
  | case3 r u hr o ih =>
    obtain ⟨hkeeps, htame⟩ := r.device.keeps_next r.journal h
    obtain ⟨hrest, hlast⟩ := ih htame
    exact ⟨hkeeps.trans ⟨hrest.path, hrest.closeFault, hrest.deeds⟩, hlast⟩

theorem deeds_finish (result : Except Failure Unit) (r : Relay PhysicalDevice) :
    (Listener.finish source result r).journal.deeds = r.journal.deeds := by
  unfold Listener.finish
  dsimp only
  split
  · rfl
  · split <;> rfl

/-- A listener does nothing to its device. -/
theorem keeps_listen (c : Channel) (j : Journal) {d : PhysicalDevice} (h : d.device.Tame) :
    let r := Listener.run source ⟨d, c, j⟩
    PhysicalDevice.Keeps d j r.device r.journal ∧ r.device.device.Tame := by
  obtain ⟨hkeeps, htame⟩ := keeps_forward ⟨d, c, Listener.begin (source.name d) j⟩ h
  exact ⟨⟨hkeeps.path, hkeeps.closeFault, (deeds_finish _ _).trans hkeeps.deeds⟩, htame⟩

theorem keeps_runAll :
    ∀ (c : Channel) (j : Journal) (ds : List PhysicalDevice), (∀ d ∈ ds, d.device.Tame) →
      (Listener.runAll source c j ds).1.map (fun d => d.device.path) =
          ds.map (fun d => d.device.path) ∧
        (∀ d ∈ (Listener.runAll source c j ds).1, d.device.Tame) ∧
        (Listener.runAll source c j ds).2.2.deeds = j.deeds
  | _, _, [], h => ⟨rfl, h, rfl⟩
  | c, j, d :: rest, h => by
      obtain ⟨hd, hrest⟩ := List.forall_mem_cons.mp h
      obtain ⟨hkeeps, htame⟩ := keeps_listen c j hd
      obtain ⟨hpaths, hall, hdeeds⟩ := keeps_runAll (Listener.run source ⟨d, c, j⟩).channel
        (Listener.run source ⟨d, c, j⟩).journal rest hrest
      refine ⟨?_, List.forall_mem_cons.mpr ⟨htame, hall⟩, hdeeds.trans hkeeps.deeds⟩
      rw [List.map_cons, ← hkeeps.path, ← hpaths]
      rfl

/-! ### Serving -/

variable {host : Host}

/-- Between the two journals virtual devices were used and nothing else was done. -/
def Uses (j j' : Journal) : Prop := ∃ work, Did j work j' ∧ ∀ deed ∈ work, deed.isUse = true

theorem Uses.of_eq {j j' : Journal} (h : j'.deeds = j.deeds) : Uses j j' :=
  ⟨[], .of_eq h, List.forall_mem_nil _⟩

theorem Uses.trans {j j' j'' : Journal} (h : Uses j j') (h' : Uses j' j'') : Uses j j'' := by
  obtain ⟨work, hdid, huse⟩ := h
  obtain ⟨work', hdid', huse'⟩ := h'
  exact ⟨work ++ work', hdid.trans hdid', List.forall_mem_append.mpr ⟨huse, huse'⟩⟩

theorem uses_write (d : VirtualDevice) (axis : Axis) (n : Int) (w : World) :
    Uses w.journal (write host d axis n w).2.journal := by
  unfold write VirtualDevice.write
  dsimp only
  split
  · split
    · exact .of_eq rfl
    · exact .of_eq rfl
    · refine ⟨_, (Did.one _ _).trans (.one _ _), ?_⟩
      exact List.forall_mem_cons.mpr ⟨rfl, List.forall_mem_singleton.mpr rfl⟩
  · exact .of_eq rfl

theorem uses_of_ending {graph : Graph String} {arena : List VirtualDevice} {v : VirtAxis}
    {w w' : World} {r : Except Failure Unit}
    (h : Engine.Ending (access host) graph arena v w r w') : Uses w.journal w'.journal := by
  cases h with
  | unread _ hreads => rw [world_of_reads hreads]; exact .of_eq rfl
  | valueless _ hreads => rw [world_of_reads hreads]; exact .of_eq rfl
  | outputless hreads => rw [world_of_reads hreads]; exact .of_eq rfl
  | @written output n w₁ _ _ hreads _ h =>
      have hwritten : (write host output v.key.axis n w₁).2 = w' := congrArg Prod.snd h
      rw [← world_of_reads hreads, ← hwritten]
      exact uses_write output v.key.axis n w₁

/-- Handling an update uses virtual devices and does nothing else. -/
theorem uses_handle (host : Host) (update : Update) (run : Engine.Run String VirtualDevice World) :
    Uses run.world.journal
      ((Engine.handle (access host) update).outcome run).2.world.journal := by
  rcases hr : (Engine.handle (access host) update).outcome run with ⟨r, last⟩
  rcases Engine.handle_cases hr with ⟨-, -, hworld, -⟩ | ⟨real, mishaps, last', -, hpass, rfl⟩
  · rw [hworld]
    exact .of_eq rfl
  · exact (hpass.mishaps (P := fun w => Uses run.world.journal w.journal)
      (fun _ _ _ _ hend hw => hw.trans (uses_of_ending hend)) (.of_eq rfl)).1

theorem uses_handleAll (host : Host) :
    ∀ (updates : List Update) (run : Engine.Run String VirtualDevice World),
      Uses run.world.journal
        ((Engine.handleAll (access host) updates).outcome run).2.world.journal
  | [], _ => .of_eq rfl
  | update :: rest, run => by
      have hfirst := uses_handle host update run
      rw [Engine.handleAll, Engine.Step.outcome_bind]
      rcases hr : (Engine.handle (access host) update).outcome run with ⟨e | n, next⟩ <;>
        rw [hr] at hfirst
      · exact hfirst
      · exact hfirst.trans (uses_handleAll host rest next)

/-- Listening and handling use virtual devices and do nothing else. -/
theorem uses_propagate (engine : Engine String VirtualDevice) (ds : List PhysicalDevice)
    (j : Journal) (h : ∀ d ∈ ds, d.device.Tame) :
    let o := propagate host engine ds j
    Uses j o.2.2 ∧ (∀ d ∈ o.2.1, d.device.Tame) ∧
      o.2.1.map (fun d => d.device.path) = ds.map fun d => d.device.path := by
  obtain ⟨hpaths, htame, hdeeds⟩ := keeps_runAll { producers := ds.length } j ds h
  rcases hl : Listener.runAll source { producers := ds.length } j ds with
    ⟨listened, channel, j₁⟩
  rw [hl] at hpaths htame hdeeds
  have hall := uses_handleAll host channel.drain.1
    ⟨engine, ⟨listened, note j₁ .info (startMessage engine.graph)⟩, #[]⟩
  have hstart : Uses j (note j₁ .info (startMessage engine.graph)) := .of_eq hdeeds
  unfold propagate
  rw [hl]
  dsimp only
  rcases hrun : (Engine.handleAll (access host) channel.drain.1).run
    ⟨engine, ⟨listened, note j₁ .info (startMessage engine.graph)⟩, #[]⟩ with ⟨e | ⟨⟩, last⟩ <;>
    rw [Engine.Step.outcome, hrun] at hall
  · exact ⟨hstart.trans (hall.trans (.of_eq rfl)), htame, hpaths⟩
  · exact ⟨hstart.trans (hall.trans (.of_eq rfl)), htame, hpaths⟩

/-! ### Releasing -/

/-- A device is closed even if the operating system objects to it. -/
theorem close_of_system (j : Journal) {d : PhysicalDevice}
    (h : ∀ {e}, d.device.closeFault = some e → ∃ s, e = .system s) :
    (d.close j).result = .ok () ∧ Did j [.closed d.device.path] (d.close j).journal := by
  unfold PhysicalDevice.close EventDevice.close
  dsimp only
  cases hf : d.device.closeFault with
  | none => exact ⟨rfl, .one _ _⟩
  | some e =>
    obtain ⟨s, rfl⟩ := h hf
    exact ⟨rfl, .one _ _⟩

/-- The devices are closed one after another. -/
def closings (devices : List PhysicalDevice) : List Deed :=
  devices.map fun d => .closed d.device.path

theorem closeAll_of_system :
    ∀ (ds : List PhysicalDevice) (j : Journal),
      (∀ d ∈ ds, ∀ {e}, d.device.closeFault = some e → ∃ s, e = .system s) →
      ∃ j', closeAll j ds = (.ok (), j') ∧ Did j (closings ds) j'
  | [], j, _ => ⟨j, rfl, .of_eq rfl⟩
  | d :: rest, j, h => by
      obtain ⟨hd, hrest⟩ := List.forall_mem_cons.mp h
      obtain ⟨hresult, hclosed⟩ := close_of_system j hd
      obtain ⟨j', hall, hdid⟩ := closeAll_of_system rest (d.close j).journal hrest
      refine ⟨j', ?_, hclosed.trans hdid⟩
      rw [closeAll, hresult]
      exact hall

theorem closeAll_tame (ds : List PhysicalDevice) (j : Journal) (h : ∀ d ∈ ds, d.device.Tame) :
    ∃ j', closeAll j ds = (.ok (), j') ∧ Did j (closings ds) j' :=
  closeAll_of_system ds j fun d hd => (h d hd).closing

theorem did_destroyAll :
    ∀ (devices : List VirtualDevice) (j : Journal),
      Did j (devices.map fun d => .destroyed d.label) (destroyAll j devices)
  | [], _ => .of_eq rfl
  | d :: rest, j => (Did.one j (.destroyed d.label)).trans (did_destroyAll rest (d.destroy j))

end Session

/-! ### Opening physical devices -/

/-- The operating system refuses to open or to create a device only with an error of its own, and
the devices that it opens are tame. -/
structure Host.Orderly (host : Host) : Prop where
  opening : ∀ {deeds path e}, host.opening deeds path = .error e → ∃ s, e = .system s
  tame : ∀ {deeds path device}, host.opening deeds path = .ok device → device.Tame
  creating : ∀ {deeds label e}, host.creating deeds label = some e →
    (∃ s, e = .system s) ∨ ∃ reason, e = .uinput reason

namespace Session

variable {host : Host}

/-- An event device is asked for its ids. -/
def probe (path : String) : List Deed := [.opened path, .closed path]

/-- The devices that are opened are closed at once. -/
theorem deeds_visits :
    ∀ visits : List Discovery.Visit, ∃ probed : List String,
      probed.Sublist (visits.map Discovery.Visit.path) ∧
      visits.flatMap Discovery.Visit.deeds = probed.flatMap probe
  | [] => ⟨[], .slnil, rfl⟩
  | ⟨path, answer⟩ :: rest => by
      obtain ⟨probed, hsub, hdeeds⟩ := deeds_visits rest
      cases answer with
      | error e => exact ⟨probed, hsub.cons _, hdeeds⟩
      | ok device =>
          refine ⟨path :: probed, hsub.cons_cons _, ?_⟩
          rw [List.flatMap_cons, hdeeds, List.flatMap_cons]
          rfl

/-- If the search comes to its end, each device that was opened has been closed at once. -/
theorem did_searchAll {paths : List String} {found found' : Discovery.Found} {j j' : Journal}
    (h : Discovery.searchAll host found j paths = (.ok found', j')) :
    ∃ probed : List String, probed.Sublist paths ∧ Did j (probed.flatMap probe) j' := by
  obtain ⟨_, next, hall, hdeeds, -⟩ :=
    Discovery.searchAll_of_none (Discovery.stop?_of_searchAll h)
  rw [h] at hall
  cases hall
  obtain ⟨probed, hsub, hprobed⟩ := deeds_visits (Discovery.visits host j.deeds paths)
  rw [Discovery.map_path_visits] at hsub
  exact ⟨probed, hsub, hprobed ▸ hdeeds⟩

theorem resolve_cases (found : Discovery.Found) (matcher : Matcher) (j : Journal) :
    ∃ j', j'.deeds = j.deeds ∧
      ((∃ path, Discovery.resolve found matcher j = (.ok path, j')) ∨
        ∃ c, Discovery.resolve found matcher j = (.error (.configuration c), j')) := by
  unfold Discovery.resolve
  split
  · exact ⟨j, rfl, .inl ⟨_, rfl⟩⟩
  · split
    · exact ⟨Discovery.note j _, rfl, .inl ⟨_, rfl⟩⟩
    · exact ⟨j, rfl, .inr ⟨_, rfl⟩⟩

/-- A device is opened, or the configuration is to blame and nothing was done. -/
theorem openAt_cases (hh : host.Orderly) (name path : String) (j : Journal) :
    (∃ d j', PhysicalDevice.openAt host name path j = (.ok d, j') ∧ d.name = name ∧
      d.device.path = path ∧ d.device.Tame ∧ Did j [.opened path] j') ∨
    ∃ c, PhysicalDevice.openAt host name path j = (.error (.configuration c), j) := by
  rw [PhysicalDevice.openAt, Host.openDevice]
  cases ho : host.opening j.deeds path with
  | error e =>
    obtain ⟨s, rfl⟩ := hh.opening ho
    exact .inr ⟨_, rfl⟩
  | ok device =>
    have htame := hh.tame ho
    exact .inl ⟨_, _, rfl, rfl, rfl, ⟨htame.closing, htame.undisturbed⟩, .one _ _⟩

/-- What comes of opening devices if the configuration is to blame for one that is not opened. -/
def abandon (opened : List PhysicalDevice) (j : Journal) (c : ConfigError) :
    Except Failure (List PhysicalDevice) × Journal :=
  (unlessFailed (.error (.configuration c)) (closeAll j opened).1, (closeAll j opened).2)

/-- Opening devices for the entries gives these.  They are all that are asked for, unless the
configuration is to blame for one that is not opened. -/
def Gets (host : Host) (found? : Option Discovery.Found) (opened : List PhysicalDevice)
    (j : Journal) (entries : List (String × Matcher)) (devices : List PhysicalDevice)
    (j' : Journal) : Prop :=
  (openAll host found? opened j entries = (.ok (opened ++ devices), j') ∧
      devices.map PhysicalDevice.name = entries.map Prod.fst) ∨
    ∃ c, openAll host found? opened j entries = abandon (opened ++ devices) j' c

section Open

variable {found? found'? : Option Discovery.Found} {matcher : Matcher} {j j₁ : Journal}
  {name : String} {rest : List (String × Matcher)} {opened : List PhysicalDevice}

theorem Gets.nil : Gets host found? opened j [] [] j :=
  .inl ⟨by rw [openAll, List.append_nil], rfl⟩

theorem Gets.cons {d : PhysicalDevice} {j₂ : Journal} {devices : List PhysicalDevice}
    (h : openAll host found? opened j ((d.name, matcher) :: rest) =
      openAll host found'? (opened ++ [d]) j₂ rest)
    (hrest : Gets host found'? (opened ++ [d]) j₂ rest devices j₁) :
    Gets host found? opened j ((d.name, matcher) :: rest) (d :: devices) j₁ := by
  rw [Gets, List.append_assoc, List.singleton_append] at hrest
  rw [Gets, h]
  obtain ⟨hok, hnames⟩ | herror := hrest
  · exact .inl ⟨hok, congrArg (d.name :: ·) hnames⟩
  · exact .inr herror

theorem Gets.abandoned {entries : List (String × Matcher)} {c : ConfigError}
    (h : openAll host found? opened j entries = abandon opened j₁ c) :
    Gets host found? opened j entries [] j₁ :=
  .inr ⟨c, by rw [h, List.append_nil]⟩

/-- The configuration is to blame for a device that is not located. -/
theorem Gets.lost {c : ConfigError}
    (h : locate host found? matcher j = (.error (.configuration c), found'?, j₁)) :
    Gets host found? opened j ((name, matcher) :: rest) [] j₁ := by
  refine .abandoned (c := c) ?_
  rw [openAll, openOne, h]
  rfl

/-- A device that is located is opened, or the configuration is to blame. -/
theorem openAll_of_located (hh : host.Orderly) (name : String)
    (rest : List (String × Matcher)) (opened : List PhysicalDevice) {path : String}
    (h : locate host found? matcher j = (.ok path, found'?, j₁)) :
    (∃ d j₂, openAll host found? opened j ((name, matcher) :: rest) =
        openAll host found'? (opened ++ [d]) j₂ rest ∧
      PhysicalDevice.openAt host name path j₁ = (.ok d, j₂) ∧ d.name = name ∧ d.device.Tame ∧
      Did j₁ [.opened d.device.path] j₂) ∨
    Gets host found? opened j ((name, matcher) :: rest) [] j₁ := by
  rcases openAt_cases hh name path j₁ with ⟨d, j₂, ho, hname, rfl, htame, hopened⟩ | ⟨c, ho⟩
  · refine .inl ⟨d, j₂, ?_, ho, hname, htame, hopened⟩
    rw [openAll, openOne, h]
    dsimp only
    rw [ho]
  · refine .inr (.abandoned (c := c) ?_)
    rw [openAll, openOne, h]
    dsimp only
    rw [ho]
    rfl

end Open

/-- The devices are opened one after another. -/
def openings (devices : List PhysicalDevice) : List Deed :=
  devices.map fun d => .opened d.device.path

/-- Behind the search the devices are opened one after another, up to one that is not opened. -/
theorem openAll_searched (hh : host.Orderly) (found : Discovery.Found) :
    ∀ (entries : List (String × Matcher)) (opened : List PhysicalDevice) (j : Journal),
      ∃ late j₁, Did j (openings late) j₁ ∧ (∀ d ∈ late, d.device.Tame) ∧
        Gets host (some found) opened j entries late j₁
  | [], opened, j => ⟨[], j, .of_eq rfl, List.forall_mem_nil _, .nil⟩
  | (name, matcher) :: rest, opened, j => by
      have hlocate : ∃ j₁, j₁.deeds = j.deeds ∧
          ((∃ path, locate host (some found) matcher j = (.ok path, some found, j₁)) ∨
            ∃ c, locate host (some found) matcher j =
              (.error (.configuration c), some found, j₁)) := by
        cases matcher with
        | atPath path => exact ⟨j, rfl, .inl ⟨path, rfl⟩⟩
        | withIds vendor product =>
          obtain ⟨j₁, hdeeds, ⟨path, h⟩ | ⟨c, h⟩⟩ :=
            resolve_cases found (.withIds vendor product) j
          · exact ⟨j₁, hdeeds, .inl ⟨path, by rw [locate, h]⟩⟩
          · exact ⟨j₁, hdeeds, .inr ⟨c, by rw [locate, h]⟩⟩
      obtain ⟨j₁, hdeeds, ⟨path, h⟩ | ⟨c, h⟩⟩ := hlocate
      · rcases openAll_of_located hh name rest opened h with
          ⟨d, j₂, hall, -, rfl, htame, hopened⟩ | hgets
        · obtain ⟨late, j₃, hdid, htames, hrest⟩ :=
            openAll_searched hh found rest (opened ++ [d]) j₂
          exact ⟨d :: late, j₃, (Did.of_eq hdeeds).trans (hopened.trans hdid),
            List.forall_mem_cons.mpr ⟨htame, htames⟩, .cons hall hrest⟩
        · exact ⟨[], j₁, .of_eq hdeeds, List.forall_mem_nil _, hgets⟩
      · exact ⟨[], j₁, .of_eq hdeeds, List.forall_mem_nil _, .lost h⟩

/-- The journal with which the devices of the host are searched, if they are. -/
def searchedAt (host : Host) (j : Journal) : List (String × Matcher) → Option Journal
  | [] => none
  | (_, .withIds _ _) :: _ => some j
  | (name, .atPath path) :: rest =>
    match PhysicalDevice.openAt host name path j with
    | (.ok _, j) => searchedAt host j rest
    | (.error _, _) => none

/-- The devices are opened one after another, some before and some behind the search, which asks
those at the paths `probed`. -/
structure Opens (host : Host) (j : Journal) (early : List PhysicalDevice) (probed : List String)
    (late : List PhysicalDevice) (j' : Journal) : Prop where
  did : Did j (openings early ++ probed.flatMap probe ++ openings late) j'
  probed : probed.Sublist host.listed
  tame : ∀ d ∈ early ++ late, d.device.Tame

/-- No device has been opened but for the search. -/
theorem Opens.none {j j' : Journal} {probed : List String} (hdid : Did j (probed.flatMap probe) j')
    (hsub : probed.Sublist host.listed) : Opens host j [] probed [] j' where
  did := by
    rw [openings, List.map_nil, List.nil_append, List.append_nil]
    exact hdid
  probed := hsub
  tame := List.forall_mem_nil _

theorem openAll_cases (hh : host.Orderly) :
    ∀ (entries : List (String × Matcher)) (opened : List PhysicalDevice) (j : Journal),
      (∀ j', searchedAt host j entries = some j' →
        ∃ found, (Discovery.search host j').1 = .ok found) →
      ∃ early probed late j₁, Opens host j early probed late j₁ ∧
        Gets host none opened j entries (early ++ late) j₁
  | [], opened, j, _ => ⟨[], [], [], j, .none (.of_eq rfl) (List.nil_sublist _), .nil⟩
  | (name, .atPath path) :: rest, opened, j, hs => by
      have h : locate host none (.atPath path) j = (.ok path, none, j) := rfl
      rcases openAll_of_located hh name rest opened h with
        ⟨d, j₂, hall, hat, rfl, htame, hopened⟩ | hgets
      · have hs' : ∀ j', searchedAt host j₂ rest = some j' →
            ∃ found, (Discovery.search host j').1 = .ok found := by
          intro j' hj'
          exact hs j' (by rw [searchedAt, hat]; exact hj')
        obtain ⟨early, probed, late, j₃, hopens, hrest⟩ :=
          openAll_cases hh rest (opened ++ [d]) j₂ hs'
        exact ⟨d :: early, probed, late, j₃, ⟨hopened.trans hopens.did, hopens.probed,
          List.forall_mem_cons.mpr ⟨htame, hopens.tame⟩⟩, .cons hall hrest⟩
      · exact ⟨[], [], [], j, .none (.of_eq rfl) (List.nil_sublist _), hgets⟩
  | (name, .withIds vendor product) :: rest, opened, j, hs => by
      -- here the search is made; the devices behind it are those of `openAll_searched`
      obtain ⟨found, hfound⟩ := hs j rfl
      rcases hsearch : Discovery.search host j with ⟨result, j₁⟩
      rw [hsearch] at hfound
      cases hfound
      obtain ⟨probed, hsub, hprobed⟩ := did_searchAll hsearch
      obtain ⟨j₂, hdeeds, hresolve⟩ := resolve_cases found (.withIds vendor product) j₁
      have hsearched : Did j (probed.flatMap probe) j₂ := by
        have := hprobed.trans (.of_eq hdeeds)
        rwa [List.append_nil] at this
      rcases hresolve with ⟨path, hresolve⟩ | ⟨c, hresolve⟩
      · have h : locate host none (.withIds vendor product) j = (.ok path, some found, j₂) := by
          rw [locate, hsearch]
          dsimp only
          rw [hresolve]
        rcases openAll_of_located hh name rest opened h with
          ⟨d, j₃, hall, -, rfl, htame, hopened⟩ | hgets
        · obtain ⟨late, j₄, hdid, htames, hrest⟩ :=
            openAll_searched hh found rest (opened ++ [d]) j₃
          exact ⟨[], probed, d :: late, j₄, ⟨hsearched.trans (hopened.trans hdid), hsub,
            List.forall_mem_cons.mpr ⟨htame, htames⟩⟩, .cons hall hrest⟩
        · exact ⟨[], probed, [], j₂, .none hsearched hsub, hgets⟩
      · have h : locate host none (.withIds vendor product) j =
            (.error (.configuration c), some found, j₂) := by
          rw [locate, hsearch]
          dsimp only
          rw [hresolve]
        exact ⟨[], probed, [], j₂, .none hsearched hsub, .lost h⟩

/-! ### Creating virtual devices -/

/-- The virtual device of an output appears. -/
def creation (e : String × Output) : Deed :=
  .created e.2.name e.2.vendor e.2.product
    (e.2.axes.entries.map fun a => VirtualDevice.setup a.1 a.2)

/-- The virtual device of an output disappears. -/
def dissolution (e : String × Output) : Deed := .destroyed e.2.name

theorem create_cases (hh : host.Orderly) (e : String × Output) (j : Journal) :
    (∃ d j', VirtualDevice.create host e.1 e.2 j = (.ok d, j') ∧ d.label = e.2.name ∧
      Did j [creation e] j') ∨
    ∃ c, VirtualDevice.create host e.1 e.2 j = (.error (.configuration c), j) := by
  unfold VirtualDevice.create
  cases hc : host.creating j.deeds e.2.name with
  | none => exact .inl ⟨_, _, rfl, rfl, .one _ _⟩
  | some f =>
    rcases hh.creating hc with ⟨s, rfl⟩ | ⟨reason, rfl⟩
    · exact .inr ⟨_, rfl⟩
    · exact .inr ⟨_, rfl⟩

/-- The virtual devices are created one after another.  If one is not created, the others are
destroyed. -/
theorem createAll_cases (hh : host.Orderly) :
    ∀ (entries : List (String × Output)) (created : List VirtualDevice) (j : Journal),
      ∃ made devices j₁, made <+: entries ∧ Did j (made.map creation) j₁ ∧
        devices.map VirtualDevice.label = made.map (fun e => e.2.name) ∧
        (createAll host created j entries = (.ok (created ++ devices), j₁) ∨
          ∃ c, createAll host created j entries =
            (.error (.configuration c), destroyAll j₁ (created ++ devices)))
  | [], created, j => by
      refine ⟨[], [], j, List.prefix_rfl, .of_eq rfl, rfl, .inl ?_⟩
      rw [createAll, List.append_nil]
  | e :: rest, created, j => by
      rcases create_cases hh e j with ⟨d, j₁, hd, hlabel, hdid⟩ | ⟨c, hc⟩
      · obtain ⟨made, devices, j₂, hinitial, hmade, hlabels, hrest⟩ :=
          createAll_cases hh rest (created ++ [d]) j₁
        refine ⟨e :: made, d :: devices, j₂, List.cons_prefix_cons.mpr ⟨rfl, hinitial⟩,
          hdid.trans hmade, by rw [List.map_cons, List.map_cons, hlabel, hlabels], ?_⟩
        rw [List.append_assoc, List.singleton_append] at hrest
        rw [createAll, hd]
        exact hrest
      · refine ⟨[], [], j, List.nil_prefix, .of_eq rfl, rfl, .inr ⟨c, ?_⟩⟩
        rw [createAll, hc, List.append_nil]
        rfl

/-! ### Whole sessions -/

/-- With these deeds virtual devices have been made and used, and some of them have disappeared.
What is held are the others, and the physical devices in some state of theirs. -/
structure Serves (config : Config) (physical : List PhysicalDevice) (j : Journal)
    (made : List (String × Output)) (work gone : List Deed) (held : Held) (j' : Journal) :
    Prop where
  made_initial : made <+: config.virtual.entries
  uses : ∀ deed ∈ work, deed.isUse = true
  graph : made ≠ [] →
    ∃ graph, (Graph.build (view physical) (sources physical) config.virtual).1 = .ok graph
  did : Did j (made.map creation ++ work ++ gone) j'
  destroyed : gone ++ held.virtual.map (fun d => .destroyed d.label) = made.map dissolution
  tame : ∀ d ∈ held.physical, d.device.Tame
  closings : closings held.physical = closings physical

theorem serves_serve (hh : host.Orderly) (config : Config) (failFast : Bool)
    {physical : List PhysicalDevice} (h : ∀ d ∈ physical, d.device.Tame) (j : Journal) :
    ∃ made work gone result held j', serve host config failFast physical j = (result, held, j') ∧
      Serves config physical j made work gone held j' := by
  have hnone : ∀ deed ∈ ([] : List Deed), deed.isUse = true := List.forall_mem_nil _
  rcases hg : Graph.build (view physical) (sources physical) config.virtual with ⟨e | graph, log⟩
  · have hserve : serve host config failFast physical j =
        (.error (.configuration (.dependency e)), { physical }, j.append log) := by
      rw [serve, hg]
    have hnil : [] <+: config.virtual.entries := List.nil_prefix
    exact ⟨[], [], [], _, _, _, hserve, ⟨hnil, hnone, fun hne => absurd rfl hne, .of_eq rfl, rfl,
      h, rfl⟩⟩
  · obtain ⟨made, devices, j₁, hinitial, hmade, hlabels, hcreate⟩ :=
      createAll_cases hh config.virtual.entries [] (j.append log)
    have hmade' : Did j (made.map creation) j₁ := (Did.of_eq rfl).trans hmade
    have hgraph : made ≠ [] →
        ∃ graph, (Graph.build (view physical) (sources physical) config.virtual).1 = .ok graph :=
      fun _ => ⟨graph, by rw [hg]⟩
    have hdestroyed : devices.map (fun d => Deed.destroyed d.label) = made.map dissolution := by
      have := congrArg (List.map Deed.destroyed) hlabels
      rwa [List.map_map, List.map_map] at this
    rw [List.nil_append] at hcreate
    rcases hcreate with hcreate | ⟨c, hcreate⟩
    · cases he : Engine.create graph (outputs devices) failFast with
      | error names =>
        have hserve : serve host config failFast physical j =
            (.error (.configuration (.missingOutputs names)), ⟨physical, devices⟩, j₁) := by
          simp only [serve, hg, hcreate, he]
        refine ⟨made, [], [], _, _, _, hserve,
          ⟨hinitial, hnone, hgraph, ?_, hdestroyed, h, rfl⟩⟩
        rw [List.append_nil, List.append_nil]
        exact hmade'
      | ok engine =>
        obtain ⟨⟨work, hwork, huse⟩, htame, hpaths⟩ := uses_propagate engine physical j₁ h
        rcases hp : propagate host engine physical j₁ with ⟨result, listened, j₂⟩
        rw [hp] at hwork htame hpaths
        have hserve : serve host config failFast physical j =
            (result, ⟨listened, devices⟩, j₂) := by
          simp only [serve, hg, hcreate, he, hp]
        refine ⟨made, work, [], _, _, _, hserve,
          ⟨hinitial, huse, hgraph, ?_, hdestroyed, htame, ?_⟩⟩
        · rw [List.append_nil]
          exact hmade'.trans hwork
        · have := congrArg (List.map Deed.closed) hpaths
          rwa [List.map_map, List.map_map] at this
    · -- those that were created are gone before the end of the session
      have hserve : serve host config failFast physical j =
          (.error (.configuration c), { physical }, destroyAll j₁ devices) := by
        simp only [serve, hg, hcreate]
      refine ⟨made, [], made.map dissolution, _, _, _, hserve,
        ⟨hinitial, hnone, hgraph, ?_, List.append_nil _, h, rfl⟩⟩
      rw [List.append_nil, ← hdestroyed]
      exact hmade'.trans (did_destroyAll devices j₁)

theorem release_tame (held : Held) (h : ∀ d ∈ held.physical, d.device.Tame) (j : Journal) :
    ∃ j', release held j = (.ok (), j') ∧
      Did j (held.virtual.map (fun d => .destroyed d.label) ++ closings held.physical) j' := by
  obtain ⟨j', hclosed, hdid⟩ := closeAll_tame held.physical (destroyAll j held.virtual) h
  exact ⟨j', hclosed, (did_destroyAll held.virtual j).trans hdid⟩

/-- What a session does to devices. -/
structure Ledger where
  /-- The physical devices that are opened before the search. -/
  early : List PhysicalDevice
  /-- The paths of those that the search asks for their ids. -/
  probed : List String
  /-- The physical devices that are opened behind the search. -/
  late : List PhysicalDevice
  /-- The outputs for which virtual devices are created. -/
  made : List (String × Output)
  /-- What the virtual devices are used for. -/
  work : List Deed

namespace Ledger

variable (l : Ledger)

/-- The physical devices of the session. -/
def physical : List PhysicalDevice := l.early ++ l.late

/-- The virtual devices are gone before the first physical device is closed. -/
def deeds : List Deed :=
  openings l.early ++ l.probed.flatMap probe ++ openings l.late ++ l.made.map creation ++ l.work ++
    l.made.map dissolution ++ closings l.physical

variable {l} (h : ∀ deed ∈ l.work, deed.isUse = true)
include h

theorem filterMap_work {f : Deed → Option String}
    (hf : ∀ {deed}, deed.isUse = true → f deed = none) : l.work.filterMap f = [] :=
  List.filterMap_eq_nil_iff.mpr fun deed hd => hf (h deed hd)

theorem opened_deeds : l.deeds.filterMap Deed.openedAt? =
    l.early.map (fun d => d.device.path) ++ (l.probed ++ l.late.map fun d => d.device.path) := by
  have hwork := filterMap_work h (f := Deed.openedAt?) fun hd => (Deed.none_of_isUse hd).1
  simp [deeds, physical, openings, closings, creation, dissolution, probe, hwork,
    List.filterMap_flatMap, List.filterMap_cons, Function.comp_def, Deed.openedAt?]

theorem closed_deeds : l.deeds.filterMap Deed.closedAt? =
    l.probed ++ (l.early.map (fun d => d.device.path) ++ l.late.map fun d => d.device.path) := by
  have hwork := filterMap_work h (f := Deed.closedAt?) fun hd => (Deed.none_of_isUse hd).2.1
  simp [deeds, physical, openings, closings, creation, dissolution, probe, hwork,
    List.filterMap_flatMap, List.filterMap_cons, Function.comp_def, Deed.closedAt?]

/-- What is opened is closed as often. -/
theorem opened_perm_closed :
    (l.deeds.filterMap Deed.openedAt?).Perm (l.deeds.filterMap Deed.closedAt?) := by
  rw [opened_deeds h, closed_deeds h]
  exact List.perm_append_comm_assoc ..

/-- What appears disappears as often. -/
theorem created_eq_destroyed :
    l.deeds.filterMap Deed.createdAs? = l.deeds.filterMap Deed.destroyedAs? := by
  have hcreated := filterMap_work h (f := Deed.createdAs?) fun hd =>
    (Deed.none_of_isUse hd).2.2.1
  have hdestroyed := filterMap_work h (f := Deed.destroyedAs?) fun hd =>
    (Deed.none_of_isUse hd).2.2.2
  simp [deeds, openings, closings, creation, dissolution, probe, hcreated, hdestroyed,
    List.filterMap_flatMap, List.filterMap_cons, Function.comp_def, Deed.createdAs?,
    Deed.destroyedAs?]

end Ledger

/-- **What is acquired is released.**  If nothing unforeseen happens and the search comes to its
end, what a session does to devices is what its ledger says.  Every event device that is opened is
closed once, and every virtual device that appears disappears once.  Virtual devices appear only if
all physical devices have been opened and the graph has been built. -/
theorem run_releases (hh : host.Orderly) (config : Config) (failFast : Bool) (j : Journal)
    (hs : ∀ j', searchedAt host j config.physical.entries = some j' →
      ∃ found, (Discovery.search host j').1 = .ok found) :
    ∃ l : Ledger, Did j l.deeds (run host config failFast j).2 ∧
      l.probed.Sublist host.listed ∧ l.made <+: config.virtual.entries ∧
      (∀ deed ∈ l.work, deed.isUse = true) ∧
      (l.deeds.filterMap Deed.openedAt?).Perm (l.deeds.filterMap Deed.closedAt?) ∧
      l.deeds.filterMap Deed.createdAs? = l.deeds.filterMap Deed.destroyedAs? ∧
      (l.made ≠ [] →
        l.physical.map PhysicalDevice.name = config.physical.keys ∧
        (∃ j', openAll host none [] j config.physical.entries = (.ok l.physical, j')) ∧
        ∃ graph, (Graph.build (view l.physical) (sources l.physical) config.virtual).1 =
          .ok graph) := by
  obtain ⟨early, probed, late, j₁, hopens, ⟨hopen, hnames⟩ | ⟨c, hopen⟩⟩ :=
    openAll_cases hh config.physical.entries [] j hs
  · obtain ⟨made, work, gone, result, held, j₂, hserve, hserves⟩ :=
      serves_serve hh config failFast hopens.tame j₁
    obtain ⟨j₃, hrelease, hreleased⟩ := release_tame held hserves.tame j₂
    have hrun : (run host config failFast j).2 = j₃ := by
      simp only [run, hopen, List.nil_append, hserve, hrelease]
    refine ⟨⟨early, probed, late, made, work⟩, ?_, hopens.probed, hserves.made_initial,
      hserves.uses, Ledger.opened_perm_closed hserves.uses,
      Ledger.created_eq_destroyed hserves.uses,
      fun hne => ⟨hnames, ⟨j₁, hopen⟩, hserves.graph hne⟩⟩
    rw [hrun]
    have hall := hopens.did.trans (hserves.did.trans hreleased)
    rw [hserves.closings] at hall
    rw [Ledger.deeds, ← hserves.destroyed]
    simpa only [Ledger.physical, List.append_assoc] using hall
  · obtain ⟨j₂, hclosed, hdid⟩ := closeAll_tame (early ++ late) j₁ hopens.tame
    have hrun : (run host config failFast j).2 = j₂ := by
      simp only [run, hopen, List.nil_append, abandon, hclosed, unlessFailed]
    have hnone : ∀ deed ∈ ([] : List Deed), deed.isUse = true := List.forall_mem_nil _
    refine ⟨⟨early, probed, late, [], []⟩, ?_, hopens.probed, List.nil_prefix, hnone,
      Ledger.opened_perm_closed hnone, Ledger.created_eq_destroyed hnone,
      fun hne => absurd rfl hne⟩
    rw [hrun]
    simpa only [Ledger.deeds, Ledger.physical, List.map_nil, List.append_nil] using
      hopens.did.trans hdid

/-- Devices are at every path, and the one that is listed has ids.  Only the virtual device that
calls itself `first` may be created. -/
def pairHost : Host where
  listed := ["/dev/input/event1"]
  opening _ path :=
    .ok { worn with vendor := if path = "/dev/input/event1" then 1 else 0, product := 2 }
  creating _ label := if label = "first" then none else some (.system .permissionDenied)
  writing _ _ _ := none

theorem orderly_pairHost : pairHost.Orderly where
  opening := nofun
  tame h := by
    cases h
    exact ⟨nofun, show Incident.closed ∉ worn.incidents by decide⟩
  creating h := by
    simp only [pairHost] at h
    split at h <;> cases h
    exact .inl ⟨_, rfl⟩

/-- The devices `A`, by its path, and `B`, by its ids, and two virtual devices with the axis
`A:X`. -/
def pairConfig : Config where
  physical := .ofList [("A", .atPath "/dev/input/event0"), ("B", .withIds 1 2)]
  virtual :=
    let axes := .ofList [(.x, Rig.ruleOf (.ref ⟨"A", .x⟩))]
    .ofList [("one", ⟨axes, "first", 0, 0⟩), ("two", ⟨axes, "second", 0, 0⟩)]

/-- The second virtual device cannot be created. -/
theorem run_releases_pair :
    pairHost.Orderly ∧
    (run pairHost pairConfig false {}).2.deeds.toList =
      [.opened "/dev/input/event0", .opened "/dev/input/event1", .closed "/dev/input/event1",
        .opened "/dev/input/event1", .created "first" 0 0 [⟨0, 127, 0, 255⟩],
        .destroyed "first", .closed "/dev/input/event0", .closed "/dev/input/event1"] ∧
    ∃ l : Ledger, Did {} l.deeds (run pairHost pairConfig false {}).2 ∧
      (l.deeds.filterMap Deed.openedAt?).Perm (l.deeds.filterMap Deed.closedAt?) ∧
      l.deeds.filterMap Deed.createdAs? = l.deeds.filterMap Deed.destroyedAs? := by
  have hsearch : ∀ j', searchedAt pairHost {} pairConfig.physical.entries = some j' →
      ∃ found, (Discovery.search pairHost j').1 = .ok found := by
    intro j' h
    cases h
    exact ⟨_, rfl⟩
  obtain ⟨l, hdid, -, -, -, hclosed, hdestroyed, -⟩ :=
    run_releases orderly_pairHost pairConfig false {} hsearch
  exact ⟨orderly_pairHost, by decide +kernel, l, hdid, hclosed, hdestroyed⟩

end Session

end AxisMixer
