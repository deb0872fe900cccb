import AxisMixer.Device.Discovery

/-!
# Discovery — what the search finds

The search visits the listed paths one after another.  What opening the device at a path gives may
depend on what was done before, and that is known in advance: the devices visited before were opened
and closed.  So the visits of a search are known before it begins (`visits`).

A device that cannot be opened is passed over, as one is that does not know its ids.  But a device
that cannot be closed stops the search (`Visit.stop?`), and with it all that was found is lost.

* `Discovery.Visit`: asking one device for its ids.
* `Discovery.searchAll_of_none`: a search that nothing stops finds the first device with some ids.
* `Discovery.searchAll_of_some`: a search that is stopped finds nothing.
-/

namespace AxisMixer.Discovery

/-! ### Visits -/

/-- Asking the device at a path for its ids. -/
structure Visit where
  path : String
  /-- What opening the device gives. -/
  answer : Except Failure EventDevice

namespace Visit

/-- What is done to the device. -/
def deeds (v : Visit) : List Deed :=
  match v.answer with
  | .ok _ => [.opened v.path, .closed v.path]
  | .error _ => []

/-- The ids of the device, if it can be opened and knows them. -/
def ids? (v : Visit) : Option (Int × Int) :=
  match v.answer with
  | .ok device =>
    if (device.vendor, device.product) = (0, 0) then none else some (device.vendor, device.product)
  | .error _ => none

/-- What the search fails with because of the visit.  That the operating system does not open the
device is no reason to stop; that it does not close it is one. -/
def stop? (v : Visit) : Option Failure :=
  match v.answer with
  | .ok device => device.closeFault
  | .error (.system _) => none
  | .error e => some e

/-- The devices found by the end of the visit. -/
def enter (v : Visit) (found : Found) : Found :=
  match v.ids? with
  | some ids => if found.contains ids then found else found.insert ids v.path
  | none => found

/-- What was found stays, and only ids that are new are found. -/
theorem find?_enter (v : Visit) (found : Found) (ids : Int × Int) :
    (v.enter found).find? ids =
      (found.find? ids).or (if v.ids? = some ids then some v.path else none) := by
  rw [enter]
  cases v.ids? with
  | none => simp only [reduceCtorEq, if_false, Option.or_none]
  | some ids' =>
      simp only [Option.some.injEq]
      by_cases hids : ids' = ids
      · subst hids
        rw [if_pos rfl, OrderedMap.contains]
        cases hfound : found.find? ids' with
        | none =>
            rw [Option.isSome_none, if_neg Bool.false_ne_true, OrderedMap.find?_insert, if_pos rfl]
            rfl
        | some path => exact hfound
      · rw [if_neg hids, Option.or_none]
        split
        · rfl
        · rw [OrderedMap.find?_insert, if_neg hids]

end Visit

/-- The visits of a search at the paths, if these deeds were done before. -/
def visits (host : Host) : Array Deed → List String → List Visit
  | _, [] => []
  | deeds, path :: rest =>
    let v : Visit := ⟨path, host.opening deeds path⟩
    v :: visits host (deeds ++ v.deeds) rest

theorem map_path_visits (host : Host) :
    ∀ (deeds : Array Deed) (paths : List String), (visits host deeds paths).map Visit.path = paths
  | _, [] => rfl
  | _, path :: rest => congrArg (path :: ·) (map_path_visits host _ rest)

/-! ### One visit after another -/

theorem fst_register (found : Found) (path : String) (device : EventDevice) (j : Journal) :
    (register found path device j).1 = (⟨path, .ok device⟩ : Visit).enter found := by
  rw [register, Visit.enter, Visit.ids?]
  by_cases hids : (device.vendor, device.product) = (0, 0)
  · simp only [if_pos hids]
  · simp only [if_neg hids]

theorem deeds_register (found : Found) (path : String) (device : EventDevice) (j : Journal) :
    (register found path device j).2.deeds = j.deeds := by
  rw [register]
  dsimp only
  split <;> rfl

/-- **One visit.**  The search is stopped, or goes on with what the visit has found. -/
theorem searchAll_cons (host : Host) (found : Found) (j : Journal) (path : String)
    (rest : List String) :
    let v : Visit := ⟨path, host.opening j.deeds path⟩
    ∃ next : Journal, next.deeds = j.deeds ++ v.deeds ∧
      searchAll host found j (path :: rest) =
        match v.stop? with
        | some e => (.error e, next)
        | none => searchAll host (v.enter found) next rest := by
  intro v
  rw [searchAll, Host.openDevice]
  rcases ho : host.opening j.deeds path with e | device
  · have hv : v = ⟨path, .error e⟩ := by rw [← ho]
    rw [hv]
    cases e with
    | system s => exact ⟨note j _, rfl, rfl⟩
    | _ => exact ⟨j, rfl, rfl⟩
  · have hv : v = ⟨path, .ok device⟩ := by rw [← ho]
    rw [hv]
    dsimp only [EventDevice.close, Visit.stop?]
    cases device.closeFault with
    | some e => exact ⟨_, rfl, rfl⟩
    | none =>
        dsimp only
        rw [fst_register]
        exact ⟨_, deeds_register .., rfl⟩

variable {host : Host}

/-- **A search that nothing stops.**  Behind what was found before it finds the first device with
some ids, at its path.  Each device that was opened is closed at once. -/
theorem searchAll_of_none :
    ∀ {paths : List String} {found : Found} {j : Journal},
      (visits host j.deeds paths).findSome? Visit.stop? = none →
      ∃ found' next, searchAll host found j paths = (.ok found', next) ∧
        next.deeds.toList =
          j.deeds.toList ++ (visits host j.deeds paths).flatMap Visit.deeds ∧
        ∀ ids, found'.find? ids = (found.find? ids).or
          (((visits host j.deeds paths).find? fun v => v.ids? = some ids).map Visit.path)
  | [], found, j, _ =>
      ⟨found, j, rfl, (List.append_nil _).symm, fun _ => Option.or_none.symm⟩
  | path :: rest, found, j, h => by
      obtain ⟨next, hdeeds, hsearch⟩ := searchAll_cons host found j path rest
      simp only [visits, ← hdeeds] at h ⊢
      generalize (⟨path, host.opening j.deeds path⟩ : Visit) = v at hdeeds hsearch h ⊢
      rw [List.findSome?_cons] at h
      cases hv : v.stop? with
      | some e =>
          rw [hv] at h
          cases h
      | none =>
          rw [hv] at h hsearch
          obtain ⟨found', last, hall, hlast, hfind⟩ := searchAll_of_none h
          refine ⟨found', last, hsearch.trans hall, ?_, fun ids => ?_⟩
          · rw [hlast, hdeeds, Array.toList_appendList, List.flatMap_cons, List.append_assoc]
          · rw [hfind, v.find?_enter, Option.or_assoc, List.find?_cons]
            by_cases hids : v.ids? = some ids
            · simp only [hids, decide_true, if_true, Option.map_some, Option.some_or]
            · simp only [hids, decide_false, if_false, Option.none_or]

/-- **A search that is stopped.**  It fails with the reason of the first visit that stops it, and
behind this visit nothing is opened.  This device has been closed, too, as far as it can be. -/
theorem searchAll_of_some {v : Visit} {behind : List Visit} {e : Failure} :
    ∀ {before : List Visit} {paths : List String} {found : Found} {j : Journal},
      visits host j.deeds paths = before ++ v :: behind → (∀ u ∈ before, u.stop? = none) →
      v.stop? = some e →
      ∃ next, searchAll host found j paths = (.error e, next) ∧
        next.deeds.toList = j.deeds.toList ++ (before ++ [v]).flatMap Visit.deeds
  | before, [], found, j, h, _, _ => by
      exact absurd h.symm (List.append_ne_nil_of_right_ne_nil _ (List.cons_ne_nil _ _))
  | before, path :: rest, found, j, h, hbefore, he => by
      obtain ⟨next, hdeeds, hsearch⟩ := searchAll_cons host found j path rest
      simp only [visits, ← hdeeds] at h
      generalize (⟨path, host.opening j.deeds path⟩ : Visit) = u at hdeeds hsearch h
      cases before with
      | nil =>
          obtain ⟨rfl, -⟩ := List.cons.inj h
          rw [he] at hsearch
          refine ⟨next, hsearch, ?_⟩
          rw [hdeeds, Array.toList_appendList, List.nil_append, List.flatMap_singleton]
      | cons u' before =>
          rw [List.cons_append] at h
          obtain ⟨rfl, hrest⟩ := List.cons.inj h
          obtain ⟨hu, hbefore⟩ := List.forall_mem_cons.mp hbefore
          rw [hu] at hsearch
          obtain ⟨last, hall, hlast⟩ := searchAll_of_some hrest hbefore he
          refine ⟨last, hsearch.trans hall, ?_⟩
          rw [hlast, hdeeds, Array.toList_appendList, List.cons_append, List.flatMap_cons,
            List.append_assoc]

/-- Nothing stops a search that comes to its end. -/
theorem stop?_of_searchAll {paths : List String} {found found' : Found} {j next : Journal}
    (h : searchAll host found j paths = (.ok found', next)) :
    (visits host j.deeds paths).findSome? Visit.stop? = none := by
  cases hstop : (visits host j.deeds paths).findSome? Visit.stop? with
  | none => rfl
  | some e =>
      obtain ⟨before, v, behind, hvisits, he, hbefore⟩ := List.findSome?_eq_some_iff.mp hstop
      obtain ⟨last, hfails, -⟩ := searchAll_of_some hvisits hbefore he
      rw [h] at hfails
      cases hfails

/-! ### The whole search -/

variable (host) in
/-- The search of all devices that the host lists, if nothing stops it. -/
theorem search_of_none (j : Journal)
    (h : (visits host j.deeds host.listed).findSome? Visit.stop? = none) :
    ∃ found next, search host j = (.ok found, next) ∧
      next.deeds.toList =
        j.deeds.toList ++ (visits host j.deeds host.listed).flatMap Visit.deeds ∧
      ∀ ids, found.find? ids =
        ((visits host j.deeds host.listed).find? fun v => v.ids? = some ids).map Visit.path :=
  searchAll_of_none h

end AxisMixer.Discovery
