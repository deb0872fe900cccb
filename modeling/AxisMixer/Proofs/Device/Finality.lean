import AxisMixer.Proofs.Device.Updates

/-!
# The end of a device — it is final

A device may be asked for its next update, read and closed, in any order and any number of times
(`Request`).  Once asking for an update has given anything else, it gives `none` forever.

There are several ways to such an end: the device was closed, its stream came to an end or failed,
the device was removed.  Behind all of them nothing is pending, and either the device is closed or
nothing is left of its stream (`Spent`).  The updates that are pending come first, even when the
device is closed, so it matters that no incident makes updates and fails at the same time.  An axis
that cannot be read is left out of a resynchronization, as long as it is the operating system that
refuses it (`FailsBySystem`); any other failure would leave the updates made before it behind the
end of a closed device.

* `next_cases`: an update is handed out, or the device is spent.
* `next_of_closed`: a closed device hands out what is pending.
* `answers_final`: the end of a device is final.
-/

namespace AxisMixer.PhysicalDevice

variable {d : PhysicalDevice} {s : PhysicalDevice × Journal}

/-! ### Requests -/

inductive Request where
  | next
  | read (axis : Axis)
  | close
  deriving DecidableEq

/-- The device and the journal behind a request.  Reading an axis leaves both as they are. -/
def behind (s : PhysicalDevice × Journal) : Request → PhysicalDevice × Journal
  | .next => ((s.1.next s.2).device, (s.1.next s.2).journal)
  | .read _ => s
  | .close => ((s.1.close s.2).device, (s.1.close s.2).journal)

/-- What a request for an update comes to. -/
def answer? (s : PhysicalDevice × Journal) : Request → Option (Except Failure (Option Update))
  | .next => some (s.1.next s.2).result
  | .read _ | .close => none

/-- The device and the journal behind requests that are made one after another. -/
def behindAll (s : PhysicalDevice × Journal) (requests : List Request) :
    PhysicalDevice × Journal :=
  requests.foldl behind s

theorem behindAll_append (before after : List Request) :
    behindAll s (before ++ after) = behindAll (behindAll s before) after := List.foldl_append

/-- What those of the requests come to that ask for an update. -/
def answers (s : PhysicalDevice × Journal) : List Request → List (Except Failure (Option Update))
  | [] => []
  | r :: rest => (answer? s r).toList ++ answers (behind s r) rest

theorem answers_append (before after : List Request) :
    answers s (before ++ after) = answers s before ++ answers (behindAll s before) after := by
  induction before generalizing s with
  | nil => rfl
  | cons r before ih => rw [List.cons_append, answers, answers, ih, List.append_assoc]; rfl

/-- What is still to come of the stream. -/
def stream (d : PhysicalDevice) : List Incident × Option Failure :=
  (d.device.incidents, d.device.ending)

/-! ### Taking in incidents -/

theorem device_close (d : PhysicalDevice) (j : Journal) :
    (d.close j).device = { d with isClosed := true } := by
  unfold close
  dsimp only
  split <;> rfl

/-- An event makes updates pending, and a packet may come to be stale or to its end. -/
theorem takeEvent_cases (h : d.FailsBySystem) (j : Journal) (e : InputEvent) :
    ∃ us isDropping j', d.takeEvent j e = ⟨.ok (), { d.enqueue us with isDropping }, j'⟩ := by
  have idle : d = { d.enqueue [] with isDropping := d.isDropping } := by rw [enqueue_nil]
  unfold takeEvent
  split
  · exact ⟨[], true, _, by rw [enqueue_nil]⟩
  · split
    · split
      · obtain ⟨j', hj'⟩ := resynchronize_eq d.axes (d := { d with isDropping := false }) j h
        exact ⟨_, false, j', hj'⟩
      · exact ⟨[], d.isDropping, j, congrArg (Outcome.mk _ · j) idle⟩
    · split
      · obtain ⟨j', hj'⟩ := d.takePosition_eq j e
        exact ⟨_, d.isDropping, j', hj'⟩
      · exact ⟨[], d.isDropping, j, congrArg (Outcome.mk _ · j) idle⟩

theorem FailsBySystem.setFault (h : d.FailsBySystem) (code : Int) (fault : Option SystemError) :
    (d.setFault code (fault.map .system)).FailsBySystem := by
  intro c e he
  simp only [PhysicalDevice.setFault, EventDevice.setFault] at he
  split at he
  · obtain ⟨s, -, rfl⟩ := Option.map_eq_some_iff.mp he
    exact ⟨s, rfl⟩
  · exact h c e he

/-- Only closing the device may fail, and it makes no updates. -/
theorem take_cases (h : d.FailsBySystem) (j : Journal) (i : Incident) :
    (d.take j i).device.FailsBySystem ∧
      ((d.take j i).result = .ok () ∨
        (d.take j i).device.isClosed = true ∧ (d.take j i).device.pending = d.pending) := by
  cases i with
  | event e =>
      obtain ⟨us, isDropping, j', hj'⟩ := takeEvent_cases h j e
      rw [take, hj']
      exact ⟨h, .inl rfl⟩
  | moved code value => exact ⟨h, .inl rfl⟩
  | faulted code fault => exact ⟨h.setFault code fault, .inl rfl⟩
  | closed =>
      rw [take, device_close]
      exact ⟨h, .inr ⟨rfl, rfl⟩⟩

/-! ### The end -/

/-- The device has nothing more to hand out. -/
structure Spent (d : PhysicalDevice) : Prop where
  pending : d.pending = []
  ended : d.isClosed = true ∨ d.stream = ([], none)

theorem finish_cases (h : d.FailsBySystem) (hp : d.pending = []) (j : Journal) :
    (d.finish j).device.FailsBySystem ∧ (d.finish j).device.Spent := by
  unfold finish
  dsimp only
  split <;> exact ⟨h, hp, .inr rfl⟩

theorem advance_cases (incidents : List Incident) :
    ∀ {d : PhysicalDevice} (j : Journal), d.FailsBySystem → d.pending = [] →
      (d.advance j incidents).device.FailsBySystem ∧
        ((∃ u, (d.advance j incidents).result = .ok (some u)) ∨
          (d.advance j incidents).device.Spent) := by
  induction incidents with
  | nil =>
      intro d j h hp
      obtain ⟨hf, hs⟩ := finish_cases h hp j
      exact ⟨hf, .inr hs⟩
  | cons i rest ih =>
      intro d j h hp
      obtain ⟨hf, ht⟩ := take_cases h j i
      rw [advance]
      dsimp only
      split
      · next e he =>
          -- the device was closed, and this failed
          obtain ⟨hc, hp'⟩ := ht.resolve_left fun hok => by cases he.symm.trans hok
          exact ⟨hf, .inr ⟨hp'.trans hp, .inl hc⟩⟩
      · exact ⟨hf, .inl ⟨_, rfl⟩⟩
      · next hp' => exact ih _ hf hp'

/-- **An update, or the end.**  If the device does not hand out an update, it is spent. -/
theorem next_cases (h : d.FailsBySystem) (j : Journal) :
    (d.next j).device.FailsBySystem ∧
      ((∃ u, (d.next j).result = .ok (some u)) ∨ (d.next j).device.Spent) := by
  unfold next
  cases hp : d.pending with
  | cons u pending => exact ⟨h, .inl ⟨u, rfl⟩⟩
  | nil =>
      dsimp only
      split
      · next hc => exact ⟨h, .inr ⟨hp, .inl hc⟩⟩
      · obtain ⟨hf, hu | hs⟩ := advance_cases d.device.incidents j h hp
        · obtain ⟨u, hu⟩ := hu
          rw [device_settle]
          exact ⟨hf, .inl ⟨u, by rw [settle, hu]; exact hu⟩⟩
        · rw [device_settle]
          exact ⟨hf, .inr hs⟩

theorem Spent.next (h : d.Spent) (j : Journal) :
    (d.next j).result = .ok none ∧ (d.next j).device.Spent := by
  obtain ⟨hp, hended⟩ := h
  unfold PhysicalDevice.next
  rw [hp]
  dsimp only
  split
  · next hc => exact ⟨rfl, hp, .inl hc⟩
  · next hc =>
      obtain ⟨hi, he⟩ := Prod.mk.inj (hended.resolve_left hc)
      rw [hi, advance, finish, he]
      exact ⟨rfl, hp, .inr rfl⟩

theorem failsBySystem_behind (h : s.1.FailsBySystem) (r : Request) :
    (behind s r).1.FailsBySystem := by
  cases r with
  | next => exact (next_cases h s.2).1
  | read => exact h
  | close =>
      rw [behind, device_close]
      exact h

theorem Spent.behind (h : s.1.Spent) (r : Request) : (behind s r).1.Spent := by
  cases r with
  | next => exact (h.next s.2).2
  | read => exact h
  | close =>
      rw [PhysicalDevice.behind, device_close]
      exact ⟨h.pending, .inl rfl⟩

/-- A spent device hands out nothing, whatever else is asked of it. -/
theorem Spent.answers (requests : List Request) :
    ∀ {s : PhysicalDevice × Journal}, s.1.Spent → ∀ a ∈ answers s requests, a = .ok none := by
  induction requests with
  | nil => exact fun _ => List.forall_mem_nil _
  | cons r rest ih =>
      intro s h
      rw [PhysicalDevice.answers, List.forall_mem_append]
      refine ⟨fun a ha => ?_, ih (h.behind r)⟩
      cases r with
      | next =>
          obtain rfl := List.mem_singleton.mp ha
          exact (h.next s.2).1
      | read | close => cases ha

theorem pairwise_answers (requests : List Request) :
    ∀ {s : PhysicalDevice × Journal}, s.1.FailsBySystem →
      (answers s requests).Pairwise fun a b => (∀ u, a ≠ .ok (some u)) → b = .ok none := by
  induction requests with
  | nil => exact fun _ => .nil
  | cons r rest ih =>
      intro s h
      have hrest := ih (failsBySystem_behind h r)
      cases r with
      | next =>
          refine List.pairwise_cons.mpr ⟨fun b hb hend => ?_, hrest⟩
          rcases (next_cases h s.2).2 with ⟨u, hu⟩ | hspent
          · exact absurd hu (hend u)
          · exact Spent.answers rest hspent b hb
      | read | close => exact hrest

/-! ### Closed devices -/

/-- A closed device hands out what is pending, and does not look at its stream. -/
theorem next_of_closed (h : d.isClosed = true) (j : Journal) :
    d.next j = ⟨.ok d.pending.head?, { d with pending := d.pending.tail }, j⟩ := by
  unfold next
  cases hp : d.pending with
  | cons u pending => rfl
  | nil =>
      dsimp only [List.head?, List.tail]
      rw [if_pos h, ← hp]

theorem closed_behind (h : s.1.isClosed = true) (r : Request) :
    (behind s r).1.isClosed = true ∧ (behind s r).1.stream = s.1.stream := by
  cases r with
  | next =>
      rw [behind, next_of_closed h]
      exact ⟨h, rfl⟩
  | read => exact ⟨h, rfl⟩
  | close =>
      rw [behind, device_close]
      exact ⟨rfl, rfl⟩

theorem stream_of_closed (requests : List Request) :
    ∀ {s : PhysicalDevice × Journal}, s.1.isClosed = true →
      (behindAll s requests).1.stream = s.1.stream := by
  induction requests with
  | nil => exact fun _ => rfl
  | cons r rest ih =>
      intro s h
      obtain ⟨hc, hstream⟩ := closed_behind h r
      exact (ih hc).trans hstream

/-- The requests to a closed device are answered with what is pending, and then with `none`. -/
theorem answers_of_closed (requests : List Request) :
    ∀ {s : PhysicalDevice × Journal}, s.1.isClosed = true →
      answers s requests =
        (List.range (requests.count .next)).map fun n => .ok s.1.pending[n]? := by
  induction requests with
  | nil => exact fun _ => rfl
  | cons r rest ih =>
      intro s h
      rw [answers, ih (closed_behind h r).1]
      cases r with
      | next =>
          -- the first of the pending updates is handed out, and the others move up
          rw [List.count_cons_self, List.range_succ_eq_map, List.map_cons, List.map_map, answer?,
            behind, next_of_closed h]
          simp only [Option.toList_some, List.singleton_append, List.head?_eq_getElem?,
            Function.comp_def, List.getElem?_tail]
      | read => rw [List.count_cons_of_ne (by nofun)]; rfl
      | close =>
          rw [List.count_cons_of_ne (by nofun), behind, device_close]
          rfl

/-- **The end of a device is final.**  Once asking for an update has come to anything but an update,
it gives `none` forever.  And once the device is closed, asking gives the updates that were pending
at that moment, then `none` forever, and takes in nothing more of the stream. -/
theorem answers_final (h : d.FailsBySystem) (j : Journal) :
    (∀ requests : List Request, (answers (d, j) requests).Pairwise fun a b =>
      (∀ u, a ≠ .ok (some u)) → b = .ok none) ∧
    ∀ before after : List Request,
      answers (d, j) (before ++ .close :: after) =
        answers (d, j) before ++ (List.range (after.count .next)).map
          (fun n => .ok (behindAll (d, j) before).1.pending[n]?) ∧
      (behindAll (d, j) (before ++ .close :: after)).1.stream =
        (behindAll (d, j) before).1.stream := by
  refine ⟨fun requests => pairwise_answers requests h, fun before after => ?_⟩
  generalize hs : behindAll (d, j) before = s
  have hclose : (behind s .close).1 = { s.1 with isClosed := true } := device_close s.1 s.2
  have hclosed : (behind s .close).1.isClosed = true := by rw [hclose]
  constructor
  · rw [answers_append, hs, answers, answers_of_closed after hclosed, hclose]
    rfl
  · rw [behindAll_append, hs]
    have hstream : (behind s .close).1.stream = s.1.stream := by rw [hclose]; rfl
    exact (stream_of_closed after hclosed).trans hstream

theorem failsBySystem_shaken (name path : String) (j : Journal) :
    (ofDevice name path shaken j).1.FailsBySystem := undisturbed_shaken.faults

/-- The stick is closed while an update of its first lost packet is pending.  This one is still
handed out, and the second lost packet stays in the stream. -/
theorem answers_final_shaken :
    let s := ofDevice "stick" "/dev/input/event7" shaken {}
    let before : List Request := [.next, .next, .read .y]
    let after : List Request := [.next, .read .z, .next, .close, .next]
    answers s (before ++ .close :: after) =
        [.ok (some ⟨⟨"stick", .x⟩, 5⟩), .ok (some ⟨⟨"stick", .x⟩, 70⟩),
          .ok (some ⟨⟨"stick", .y⟩, 100⟩), .ok none, .ok none] ∧
      (behindAll s (before ++ .close :: after)).1.stream =
        (shaken.incidents.drop 6, shaken.ending) := by
  intro s before after
  obtain ⟨-, hclosing⟩ := answers_final (failsBySystem_shaken "stick" "/dev/input/event7" {}) s.2
  obtain ⟨hanswers, hstream⟩ := hclosing before after
  have hpending : (behindAll s before).1.pending = [⟨⟨"stick", .y⟩, 100⟩] := by decide +kernel
  constructor
  · rw [hpending] at hanswers
    refine hanswers.trans ?_
    rfl
  · refine hstream.trans ?_
    rfl

end AxisMixer.PhysicalDevice
