import AxisMixer.Proofs.Session.Release

/-!
# Sessions — locating devices by their ids

A physical device is configured by its path or by its ids.  For the first device that is configured
by its ids all devices of the host are visited, whatever they have to do with the configuration.

Devices that cannot be opened do no harm then: the ids lead to the first device that has them
(`Locates`), and where a session does not open a device, there is no such device, or this very one
cannot be opened (`Misses`).  It is otherwise with devices that cannot be closed.  One of them is
enough for the search to find nothing, and so for every device that is configured by its ids.

* `Session.search_tolerates`: what the search finds, and what the physical devices of a session are.
* `Session.search_stuck`: a device that has nothing to do with the configuration keeps a session
  from opening another one.
-/

namespace AxisMixer

open Discovery (Found Visit visits)
open Journal (Did)

/-- The operating system refuses to open or to close an event device only with an error of its
own. -/
structure Host.Ordinary (host : Host) : Prop where
  opening : ∀ {deeds path e}, host.opening deeds path = .error e → ∃ s, e = .system s
  closing : ∀ {deeds path device}, host.opening deeds path = .ok device →
    ∀ {e}, device.closeFault = some e → ∃ s, e = .system s

namespace Session

/-- The path that the matcher stands for, if the search makes these visits. -/
inductive Locates (vs : List Visit) : Matcher → String → Prop
  | atPath (path : String) : Locates vs (.atPath path) path
  | withIds {vendor product : Int} {v : Visit}
      (h : (vs.find? fun v => v.ids? = some (vendor, product)) = some v) :
      Locates vs (.withIds vendor product) v.path

/-- Why there is no device for the entry of a configuration. -/
inductive Misses (host : Host) (vs : List Visit) : String × Matcher → Failure → Prop
  /-- None of the devices that were opened has the ids. -/
  | unknown {name : String} {matcher : Matcher} (h : ∀ path, ¬ Locates vs matcher path) :
      Misses host vs (name, matcher) (.configuration (.device (.notFound matcher)))
  /-- The device itself cannot be opened. -/
  | refused {name : String} {matcher : Matcher} {path : String} {deeds : Array Deed}
      {s : SystemError} (hlocates : Locates vs matcher path)
      (h : host.opening deeds path = .error (.system s)) :
      Misses host vs (name, matcher) (.configuration (.device (.cannotOpen path name s)))

/-- The visits of the search that is made for the entries, if one is made. -/
def asked (host : Host) (j : Journal) (entries : List (String × Matcher)) : List Visit :=
  match searchedAt host j entries with
  | some j' => visits host j'.deeds host.listed
  | none => []

/-- Either there is a device for each of the entries, or one of them has been missed. -/
def Settles (host : Host) (vs : List Visit) (entries : List (String × Matcher))
    (opened : List PhysicalDevice) (result : Except Failure (List PhysicalDevice)) : Prop :=
  (∃ devices, result = .ok (opened ++ devices) ∧
    List.Forall₂ (fun entry d => d.name = entry.1 ∧ Locates vs entry.2 d.path) entries devices) ∨
  ∃ entry ∈ entries, ∃ e, result = .error e ∧ Misses host vs entry e

section

variable {host : Host} {vs : List Visit} {found : Found} {found? found'? : Option Found}
  {name path : String} {matcher : Matcher} {rest : List (String × Matcher)}
  {opened : List PhysicalDevice} {j j₁ : Journal}

/-! ### Locating one device -/

/-- What was found is what the visits say. -/
def Agrees (vs : List Visit) (found : Found) : Prop :=
  ∀ ids, found.find? ids = (vs.find? fun v => v.ids? = some ids).map Visit.path

theorem resolve_of_agrees (h : Agrees vs found) (matcher : Matcher) (j : Journal) :
    (∃ path next, Discovery.resolve found matcher j = (.ok path, next) ∧ Locates vs matcher path) ∨
    (Discovery.resolve found matcher j =
        (.error (.configuration (.device (.notFound matcher))), j) ∧
      ∀ path, ¬ Locates vs matcher path) := by
  cases matcher with
  | atPath path => exact .inl ⟨path, j, rfl, .atPath path⟩
  | withIds vendor product =>
      rw [Discovery.resolve, h]
      cases hv : vs.find? fun v => v.ids? = some (vendor, product) with
      | some v => exact .inl ⟨v.path, _, rfl, .withIds hv⟩
      | none =>
          refine .inr ⟨rfl, fun path hlocates => ?_⟩
          cases hlocates with
          | withIds h =>
              rw [hv] at h
              cases h

/-! ### Opening the devices -/

/-- The devices can be closed, though the operating system may object to it. -/
def Closable (opened : List PhysicalDevice) : Prop :=
  ∀ d ∈ opened, ∀ {e}, d.device.closeFault = some e → ∃ s, e = .system s

/-- A device that is located is opened, or it is the reason for opening none. -/
theorem openAt_located (hh : host.Ordinary) (name path : String) (j : Journal) :
    (∃ d next, PhysicalDevice.openAt host name path j = (.ok d, next) ∧ d.name = name ∧
      d.path = path ∧ ∀ {e}, d.device.closeFault = some e → ∃ s, e = .system s) ∨
    ∃ s, PhysicalDevice.openAt host name path j =
        (.error (.configuration (.device (.cannotOpen path name s))), j) ∧
      host.opening j.deeds path = .error (.system s) := by
  rw [PhysicalDevice.openAt, Host.openDevice]
  cases ho : host.opening j.deeds path with
  | error e =>
      obtain ⟨s, rfl⟩ := hh.opening ho
      exact .inr ⟨s, rfl, rfl⟩
  | ok device => exact .inl ⟨_, _, rfl, rfl, rfl, hh.closing ho⟩

/-- A device that is missed keeps all from being opened, and those that are open are closed. -/
theorem settles_of_missed (hclosable : Closable opened) {e : ConfigError}
    (h : openAll host found? opened j ((name, matcher) :: rest) = abandon opened j₁ e)
    (hmisses : Misses host vs (name, matcher) (.configuration e)) :
    Settles host vs ((name, matcher) :: rest) opened
      (openAll host found? opened j ((name, matcher) :: rest)).1 := by
  obtain ⟨next, hclosed, -⟩ := closeAll_of_system opened j₁ hclosable
  refine .inr ⟨(name, matcher), List.mem_cons_self, _, ?_, hmisses⟩
  rw [h, abandon, hclosed]
  rfl

/-- **One device.**  A device that is located is opened, and it goes on with the others; or all ends
here. -/
theorem settles_of_located (hh : host.Ordinary) (hclosable : Closable opened)
    (hlocate : locate host found? matcher j = (.ok path, found'?, j₁))
    (hlocates : Locates vs matcher path)
    (hrest : ∀ d next, PhysicalDevice.openAt host name path j₁ = (.ok d, next) →
      Closable (opened ++ [d]) →
      Settles host vs rest (opened ++ [d]) (openAll host found'? (opened ++ [d]) next rest).1) :
    Settles host vs ((name, matcher) :: rest) opened
      (openAll host found? opened j ((name, matcher) :: rest)).1 := by
  rcases openAt_located hh name path j₁ with ⟨d, next, hat, hname, hpath, hcloses⟩ | ⟨s, hat, ho⟩
  · have hall : openAll host found? opened j ((name, matcher) :: rest) =
        openAll host found'? (opened ++ [d]) next rest := by
      rw [openAll, openOne, hlocate]
      dsimp only
      rw [hat]
    have hclosable' : Closable (opened ++ [d]) :=
      List.forall_mem_append.mpr ⟨hclosable, List.forall_mem_singleton.mpr hcloses⟩
    rw [hall]
    rcases hrest d next hat hclosable' with ⟨devices, hok, hdevices⟩ | ⟨entry, hentry, hmissed⟩
    · refine .inl ⟨d :: devices, ?_, .cons ⟨hname, hpath ▸ hlocates⟩ hdevices⟩
      rw [hok, List.append_assoc, List.singleton_append]
    · exact .inr ⟨entry, List.mem_cons_of_mem _ hentry, hmissed⟩
  · have hall : openAll host found? opened j ((name, matcher) :: rest) =
        abandon opened j₁ (.device (.cannotOpen path name s)) := by
      rw [openAll, openOne, hlocate]
      dsimp only
      rw [hat]
      rfl
    exact settles_of_missed hclosable hall (.refused hlocates ho)

/-- Behind the search, if what it found is what the visits say. -/
theorem settles_searched (hh : host.Ordinary) (hagrees : Agrees vs found) :
    ∀ (entries : List (String × Matcher)) (opened : List PhysicalDevice) (j : Journal),
      Closable opened →
      Settles host vs entries opened (openAll host (some found) opened j entries).1
  | [], opened, j, _ => .inl ⟨[], by rw [openAll, List.append_nil], .nil⟩
  | (name, matcher) :: rest, opened, j, hclosable => by
      have hlocate (result : Except Failure String) (next : Journal)
          (h : Discovery.resolve found matcher j = (result, next)) :
          locate host (some found) matcher j = (result, some found, next) := by
        cases matcher with
        | atPath path =>
            cases h
            rfl
        | withIds vendor product => rw [locate, h]
      rcases resolve_of_agrees hagrees matcher j with
        ⟨path, next, hresolve, hlocates⟩ | ⟨hresolve, hnone⟩
      · refine settles_of_located hh hclosable (hlocate _ _ hresolve) hlocates ?_
        exact fun d last _ hclosable => settles_searched hh hagrees rest _ last hclosable
      · have hall : openAll host (some found) opened j ((name, matcher) :: rest) =
            abandon opened j (.device (.notFound matcher)) := by
          rw [openAll, openOne, hlocate _ _ hresolve]
          rfl
        exact settles_of_missed hclosable hall (.unknown hnone)

/-- The devices are searched for the first that is configured by its ids. -/
theorem settles_asked (hh : host.Ordinary) :
    ∀ (entries : List (String × Matcher)) (opened : List PhysicalDevice) (j : Journal),
      Closable opened → (∀ v ∈ asked host j entries, v.stop? = none) →
      Settles host (asked host j entries) entries opened (openAll host none opened j entries).1
  | [], opened, j, _, _ => .inl ⟨[], by rw [openAll, List.append_nil], .nil⟩
  | (name, .atPath path) :: rest, opened, j, hclosable, hstop => by
      refine settles_of_located hh hclosable rfl (.atPath path) fun d next hat hclosable => ?_
      have hasked : asked host j ((name, .atPath path) :: rest) = asked host next rest := by
        rw [asked, searchedAt, hat, asked]
      rw [hasked] at hstop ⊢
      exact settles_asked hh rest _ next hclosable hstop
  | (name, .withIds vendor product) :: rest, opened, j, hclosable, hstop => by
      have hasked : asked host j ((name, .withIds vendor product) :: rest) =
          visits host j.deeds host.listed := rfl
      rw [hasked] at hstop ⊢
      obtain ⟨found, next, hsearch, -, hfind⟩ :=
        Discovery.search_of_none host j (List.findSome?_eq_none_iff.mpr hstop)
      -- it goes on as if the search had been made before
      have hall : openAll host none opened j ((name, .withIds vendor product) :: rest) =
          openAll host (some found) opened next ((name, .withIds vendor product) :: rest) := by
        have hlocate : locate host none (.withIds vendor product) j =
            locate host (some found) (.withIds vendor product) next := by
          simp only [locate, hsearch]
        rw [openAll, openAll, openOne, openOne, hlocate]
      rw [hall]
      exact settles_searched hh hfind _ opened next hclosable

end

/-! ### Broken devices -/

/-- **Which broken devices are tolerated.**  The search visits all devices that are listed.  It
comes to its end if no visit stops it, and then it has found, for all ids but `(0, 0)`, the first
device that could be opened and has these ids, and nothing else.  Otherwise it fails, for the reason
of the first visit that stops it.  Either way each device that was opened has been closed once.

If none of the visits stops it, the devices of a configuration are opened at the paths that their
matchers stand for, or one of them is missed: no device that could be opened has its ids, or it
cannot be opened itself. -/
theorem search_tolerates (host : Host) :
    (∀ j, let vs := visits host j.deeds host.listed
      ((∃ found, (Discovery.search host j).1 = .ok found) ↔ ∀ v ∈ vs, v.stop? = none) ∧
      (∀ found, (Discovery.search host j).1 = .ok found →
        (∀ ids, found.find? ids = (vs.find? fun v => v.ids? = some ids).map Visit.path) ∧
        Did j (vs.flatMap Visit.deeds) (Discovery.search host j).2) ∧
      ∀ before v behind e, vs = before ++ v :: behind → (∀ u ∈ before, u.stop? = none) →
        v.stop? = some e →
          (Discovery.search host j).1 = .error e ∧
            Did j ((before ++ [v]).flatMap Visit.deeds) (Discovery.search host j).2) ∧
    (host.Ordinary → ∀ entries j, (∀ v ∈ asked host j entries, v.stop? = none) →
      Settles host (asked host j entries) entries [] (openAll host none [] j entries).1) := by
  refine ⟨fun j => ?_, fun hh entries j => settles_asked hh entries [] j (List.forall_mem_nil _)⟩
  intro vs
  refine ⟨⟨?_, fun hstop => ?_⟩, ?_, ?_⟩
  · rintro ⟨found, h⟩
    exact List.findSome?_eq_none_iff.mp (Discovery.stop?_of_searchAll (Prod.ext h rfl))
  · obtain ⟨found, next, hsearch, -⟩ :=
      Discovery.search_of_none host j (List.findSome?_eq_none_iff.mpr hstop)
    exact ⟨found, congrArg Prod.fst hsearch⟩
  · intro found h
    obtain ⟨found', next, hsearch, hdeeds, hfind⟩ :=
      Discovery.search_of_none host j (Discovery.stop?_of_searchAll (Prod.ext h rfl))
    rw [hsearch] at h ⊢
    cases h
    exact ⟨hfind, hdeeds⟩
  · intro before v behind e hvs hbefore he
    obtain ⟨next, hsearch, hdeeds⟩ := Discovery.searchAll_of_some hvs hbefore he
    have hsearch : Discovery.search host j = (.error e, next) := hsearch
    rw [hsearch]
    exact ⟨rfl, hdeeds⟩

/-- Of the four devices the first cannot be opened and the second has no ids; the other two have the
same ids. -/
def mixedHost : Host where
  listed := ["/dev/input/event0", "/dev/input/event1", "/dev/input/event2", "/dev/input/event3"]
  opening _ path :=
    let id := if path = "/dev/input/event1" then 0 else 2
    if path = "/dev/input/event0" then .error (.system .permissionDenied)
    else .ok { worn with vendor := id, product := id }
  creating _ _ := none
  writing _ _ _ := none

/-- The ids lead to the third device. -/
theorem search_tolerates_mixed :
    mixedHost.Ordinary ∧ (∀ v ∈ asked mixedHost {} [("A", .withIds 2 2)], v.stop? = none) ∧
      ∃ d, (openAll mixedHost none [] {} [("A", .withIds 2 2)]).1 = .ok [d] ∧ d.name = "A" ∧
        d.path = "/dev/input/event2" := by
  have hh : mixedHost.Ordinary := by
    constructor
    · intro deeds path e h
      simp only [mixedHost] at h
      split at h <;> cases h
      exact ⟨_, rfl⟩
    · intro deeds path device h e he
      simp only [mixedHost] at h
      split at h <;> cases h
      cases he
  have hstop : ∀ v ∈ asked mixedHost {} [("A", .withIds 2 2)], v.stop? = none :=
    List.findSome?_eq_none_iff.mp rfl
  refine ⟨hh, hstop, ?_⟩
  rcases (search_tolerates mixedHost).2 hh [("A", .withIds 2 2)] {} hstop with
    ⟨devices, hok, hdevices⟩ | ⟨entry, -, e, herror, -⟩
  · obtain ⟨d, _, ⟨hname, hlocates⟩, hnil, rfl⟩ := List.forall₂_cons_left_iff.mp hdevices
    cases hnil
    refine ⟨d, hok, hname, ?_⟩
    -- the first visit with these ids
    generalize hpath : d.path = path at hlocates
    cases hlocates with
    | withIds h =>
        cases h
        rfl
  · cases herror

/-- The first device that is listed cannot be closed; the second one is in order. -/
def stuckHost : Host where
  listed := ["/dev/input/event0", "/dev/input/event1"]
  opening _ path := .ok <|
    if path = "/dev/input/event0" then
      { worn with
        vendor := 1
        product := 1
        closeFault := some (.system ⟨5, "Input/output error", none⟩) }
    else { worn with vendor := 2, product := 2 }
  creating _ _ := none
  writing _ _ _ := none

/-- **A device that cannot be closed is not tolerated.**  It keeps the search from finding another
device, and a session from opening it. -/
theorem search_stuck :
    stuckHost.Ordinary ∧ (¬ ∃ found, (Discovery.search stuckHost {}).1 = .ok found) ∧
      ¬ ∃ devices, (openAll stuckHost none [] {} [("B", .withIds 2 2)]).1 = .ok devices := by
  refine ⟨⟨nofun, ?_⟩, ?_, ?_⟩
  · intro deeds path device h e he
    cases h
    split at he <;> cases he
    exact ⟨_, rfl⟩
  · rintro ⟨found, h⟩
    cases h
  · rintro ⟨devices, h⟩
    cases h

end Session

end AxisMixer
