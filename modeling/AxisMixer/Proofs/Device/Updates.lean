import AxisMixer.Device.Physical
import Mathlib.Data.List.Dedup
import Mathlib.Data.List.DropRight
import Mathlib.Data.List.Sort

/-!
# Updates of a device — what its stream gives, told by looking back

`PhysicalDevice.next` keeps three things from one call to the next: whether events were dropped,
the updates made but not handed out, and what is left of the stream.  Here none of them occurs.
What an incident gives is a function of the incidents before it (`EventDevice.told`), and the
updates of the device are what all incidents give, one after another (`EventDevice.updates`).

Asking for updates until the end of the stream gives just these (`drain_ofDevice`), if the stream
is not disturbed: nobody closes the device, and it fails only as devices do that are removed
(`EventDevice.Undisturbed`).  One incident is taken in (`Behind.take`), then as many as it takes to
the next update (`answers_settle_advance`), then all.

* `stale`: whether events were dropped since the last end of a packet.
* `EventDevice.census`: an update for each of the axes that can be read.
* `Behind`: the device has taken in some incidents.
* `Owes`: the updates that a device is still to hand out.
-/

namespace AxisMixer

/-! ### The incidents before -/

namespace Incident

def isReport : Incident → Bool
  | event e => e.isReport
  | _ => false

def isDropped : Incident → Bool
  | event e => e.isDropped
  | _ => false

/-- The value that the axis takes. -/
def value? (code : Int) : Incident → Option Int
  | moved c value => if code = c then some value else none
  | _ => none

/-- What asking for the value of the axis comes to fail with. -/
def fault? (code : Int) : Incident → Option (Option SystemError)
  | faulted c fault => if code = c then some fault else none
  | _ => none

end Incident

/-- Events were dropped since the last end of a packet. -/
def stale (before : List Incident) : Bool :=
  (before.rtakeWhile fun i => !i.isReport).any Incident.isDropped

theorem stale_concat (before : List Incident) (i : Incident) :
    stale (before ++ [i]) = (!i.isReport && (stale before || i.isDropped)) := by
  unfold stale
  rw [List.rtakeWhile_concat]
  cases i.isReport <;> simp

namespace EventDevice

variable (start : EventDevice) (before : List Incident)

/-- The value of the axis: the latest it took, or the one at the start. -/
def valueAfter (code : Int) : Int :=
  (before.reverse.findSome? (Incident.value? code)).getD (start.values code)

def faultAfter (code : Int) : Option Failure :=
  match before.reverse.findSome? (Incident.fault? code) with
  | some fault => fault.map .system
  | none => start.faults code

/-- The value that asking for it gives. -/
def readingAfter (code : Int) : Option Int :=
  if (start.faultAfter before code).isSome then none else some (start.valueAfter before code)

theorem valueAfter_concat (i : Incident) (code : Int) :
    start.valueAfter (before ++ [i]) code =
      (i.value? code).getD (start.valueAfter before code) := by
  unfold valueAfter
  rw [List.reverse_concat, List.findSome?_cons]
  cases i.value? code <;> rfl

theorem faultAfter_concat (i : Incident) (code : Int) :
    start.faultAfter (before ++ [i]) code =
      match i.fault? code with
      | some fault => fault.map .system
      | none => start.faultAfter before code := by
  unfold faultAfter
  rw [List.reverse_concat, List.findSome?_cons]
  cases i.fault? code <;> rfl

/-! ### What an incident gives -/

/-- The axes of the device in ascending order of their codes. -/
def axesByCode : List Axis :=
  (start.codes.dedup.insertionSort (· ≤ ·)).filterMap Axis.ofCode?

/-- An update for each axis that can be read. -/
def census (name : String) : List Update :=
  start.axesByCode.filterMap fun a =>
    (start.readingAfter before a.code).map fun value => ⟨⟨name, a⟩, value⟩

/-- The updates that the next incident gives. -/
def told (name : String) : Incident → List Update
  | .event e =>
    if stale before then
      if e.isReport then start.census before name else []
    else if e.isPosition then
      (Axis.ofCode? e.code).toList.map fun a => ⟨⟨name, a⟩, e.value⟩
    else []
  | _ => []

/-- The updates that the incidents give one after another. -/
def toldBy (name : String) (before : List Incident) : List Incident → List Update
  | [] => []
  | i :: rest => start.told before name i ++ toldBy name (before ++ [i]) rest

/-- The updates of the device under this name. -/
def updates (name : String) : List Update := start.toldBy name [] start.incidents

/-- The device stays open, and it fails only as devices do that are removed. -/
structure Undisturbed : Prop where
  stays : Incident.closed ∉ start.incidents
  faults : ∀ code e, start.faults code = some e → ∃ s, e = .system s
  ending : ∀ e, start.ending = some e → ∃ s, e = .system s ∧ s.number = SystemError.noSuchDevice

end EventDevice

/-! ### Axes in the order of their codes -/

namespace Axis

theorem code_of_ofCode? {code : Int} {a : Axis} (h : ofCode? code = some a) :
    (a.code : Int) = code := by
  simpa using List.find?_some h

/-- The canonical order is that of the codes. -/
theorem pairwise_all : all.Pairwise fun a b => a.code < b.code := by decide

end Axis

namespace EventDevice

theorem mem_axesByCode {start : EventDevice} {a : Axis} :
    a ∈ start.axesByCode ↔ (a.code : Int) ∈ start.codes := by
  rw [axesByCode, List.mem_filterMap]
  constructor
  · rintro ⟨c, hc, ha⟩
    rw [Axis.code_of_ofCode? ha]
    exact List.mem_dedup.mp ((List.mem_insertionSort _).mp hc)
  · intro hc
    exact ⟨a.code, (List.mem_insertionSort _).mpr (List.mem_dedup.mpr hc), a.ofCode?_code⟩

theorem pairwise_axesByCode (start : EventDevice) :
    start.axesByCode.Pairwise fun a b => a.code < b.code := by
  have nodup : (start.codes.dedup.insertionSort (· ≤ ·)).Nodup :=
    (List.perm_insertionSort _ _).nodup_iff.mpr (List.nodup_dedup _)
  have ascending := (List.sortedLE_insertionSort.sortedLT_of_nodup nodup).pairwise
  refine List.pairwise_filterMap.mpr (ascending.imp ?_)
  intro c c' hlt a ha a' ha'
  rw [← Axis.code_of_ofCode? ha, ← Axis.code_of_ofCode? ha'] at hlt
  exact Int.ofNat_lt.mp hlt

/-- Nothing needs to be sorted: these are the canonical axes that the device has. -/
theorem axesByCode_eq (start : EventDevice) :
    start.axesByCode = Axis.all.filter fun a => start.codes.contains (a.code : Int) := by
  have ascending := start.pairwise_axesByCode
  have ascending' := Axis.pairwise_all.filter fun a => start.codes.contains (a.code : Int)
  have nodup : ∀ {l : List Axis}, (l.Pairwise fun a b => a.code < b.code) → l.Nodup :=
    fun h => h.imp fun hlt heq => (heq ▸ hlt).false
  have same : ∀ a, a ∈ start.axesByCode ↔
      a ∈ Axis.all.filter fun a => start.codes.contains (a.code : Int) := by
    intro a
    rw [mem_axesByCode, List.mem_filter, List.contains_iff_mem, and_iff_right a.mem_all]
  exact List.Perm.eq_of_pairwise (fun a b _ _ h h' => absurd h' h.asymm) ascending ascending'
    ((List.perm_ext_iff_of_nodup (nodup ascending) (nodup ascending')).mpr same)

end EventDevice

namespace InputEvent

theorem isReport_of_isDropped {e : InputEvent} (h : e.isDropped = true) : e.isReport = false := by
  simp_all [isDropped, isReport, dropped, report]

theorem isPosition_of_isDropped {e : InputEvent} (h : e.isDropped = true) :
    e.isPosition = false := by
  simp_all [isDropped, isPosition, synchronization, position]

end InputEvent

namespace PhysicalDevice

variable {name : String} {start : EventDevice} {before : List Incident} {d : PhysicalDevice}

/-! ### Reading the axes -/

/-- Makes these updates pending. -/
def enqueue (d : PhysicalDevice) (us : List Update) : PhysicalDevice :=
  { d with pending := d.pending ++ us }

theorem enqueue_nil (d : PhysicalDevice) : d.enqueue [] = d := by
  rw [enqueue, List.append_nil]

theorem enqueue_enqueue (d : PhysicalDevice) (us vs : List Update) :
    (d.enqueue us).enqueue vs = d.enqueue (us ++ vs) := by
  simp only [enqueue, List.append_assoc]

/-- An update with the current value of the axis, if it can be read. -/
def current? (d : PhysicalDevice) (a : Axis) : Option Update :=
  (d.read a).toOption.map fun value => ⟨⟨d.name, a⟩, value⟩

/-- The device fails only with errors of the operating system. -/
def FailsBySystem (d : PhysicalDevice) : Prop :=
  ∀ code e, d.device.faults code = some e → ∃ s, e = .system s

theorem FailsBySystem.read (h : d.FailsBySystem) {a : Axis} {e : Failure}
    (hr : d.read a = .error e) : ∃ p, e = .propagation p := by
  unfold PhysicalDevice.read EventDevice.valueOf at hr
  split at hr
  · cases hf : d.device.faults a.code with
    | none => simp [hf] at hr
    | some fault =>
        obtain ⟨s, rfl⟩ := h _ _ hf
        rw [hf] at hr
        cases hr
        exact ⟨_, rfl⟩
  · cases hr
    exact ⟨_, rfl⟩

theorem resynchronize_eq (axes : List Axis) :
    ∀ {d : PhysicalDevice} (j : Journal), d.FailsBySystem →
      ∃ j', d.resynchronize j axes = ⟨.ok (), d.enqueue (axes.filterMap d.current?), j'⟩ := by
  induction axes with
  | nil => exact fun {d} j _ => ⟨j, by rw [List.filterMap_nil, d.enqueue_nil]; rfl⟩
  | cons a rest ih =>
      intro d j h
      cases hr : d.read a with
      | ok value =>
          have hc : d.current? a = some ⟨⟨d.name, a⟩, value⟩ := by rw [current?, hr]; rfl
          obtain ⟨j', hj'⟩ := ih (d := d.enqueue [⟨⟨d.name, a⟩, value⟩]) j h
          rw [enqueue_enqueue] at hj'
          rw [resynchronize, hr, List.filterMap_cons_some hc]
          exact ⟨j', hj'⟩
      | error e =>
          obtain ⟨p, rfl⟩ := h.read hr
          have hc : d.current? a = none := by rw [current?, hr]; rfl
          rw [resynchronize, hr, List.filterMap_cons_none hc]
          exact ih _ h

/-! ### One incident -/

/-- The device was `start`, under this name, and has taken in these incidents. -/
structure Behind (name : String) (start : EventDevice) (before : List Incident)
    (d : PhysicalDevice) : Prop where
  name : d.name = name
  codes : d.device.codes = start.codes
  values : ∀ code, d.device.values code = start.valueAfter before code
  faults : ∀ code, d.device.faults code = start.faultAfter before code
  ending : d.device.ending = start.ending
  dropping : d.isDropping = stale before
  isOpen : d.isClosed = false

namespace Behind

/-- What is pending and what is still to come are no part of it. -/
theorem of_fields (h : Behind name start before d) (pending : List Update)
    (incidents : List Incident) :
    Behind name start before ({ d with pending }.withIncidents incidents) :=
  ⟨h.name, h.codes, h.values, h.faults, h.ending, h.dropping, h.isOpen⟩

theorem failsBySystem (h : Behind name start before d) (hs : start.Undisturbed) :
    d.FailsBySystem := by
  intro code e he
  rw [h.faults, EventDevice.faultAfter] at he
  split at he
  · obtain ⟨s, -, rfl⟩ := Option.map_eq_some_iff.mp he
    exact ⟨s, rfl⟩
  · exact hs.faults _ _ he

/-- What the axes read now is the census. -/
theorem filterMap_current? (h : Behind name start before d) :
    d.axes.filterMap d.current? = start.census before name := by
  have haxes : d.axes = start.axesByCode := by
    rw [start.axesByCode_eq, ← h.codes]
    rfl
  rw [EventDevice.census, ← haxes]
  refine List.filterMap_congr fun a ha => ?_
  rw [current?, h.name, PhysicalDevice.read, if_pos (List.mem_filter.mp ha).2,
    EventDevice.valueOf, EventDevice.readingAfter, h.faults, h.values]
  cases start.faultAfter before a.code with
  | none => rfl
  | some fault => cases fault <;> rfl

/-- An event changes no more than what is pending and whether events are being dropped. -/
theorem event (h : Behind name start before d) (e : InputEvent) (us : List Update) :
    Behind name start (before ++ [.event e])
      { d.enqueue us with isDropping := stale (before ++ [.event e]) } where
  name := h.name
  codes := h.codes
  values c := by rw [start.valueAfter_concat]; exact h.values c
  faults c := by rw [start.faultAfter_concat]; exact h.faults c
  ending := h.ending
  dropping := rfl
  isOpen := h.isOpen

theorem setValue (h : Behind name start before d) (code value : Int) :
    Behind name start (before ++ [.moved code value]) (d.setValue code value) where
  name := h.name
  codes := h.codes
  values c := by
    rw [start.valueAfter_concat, ← h.values, Incident.value?]
    exact (apply_ite (Option.getD · (d.device.values c)) (c = code) (some value) none).symm
  faults c := by rw [start.faultAfter_concat]; exact h.faults c
  ending := h.ending
  dropping := h.dropping.trans (by simp [stale_concat, Incident.isReport, Incident.isDropped])
  isOpen := h.isOpen

theorem setFault (h : Behind name start before d) (code : Int) (fault : Option SystemError) :
    Behind name start (before ++ [.faulted code fault]) (d.setFault code (fault.map .system)) where
  name := h.name
  codes := h.codes
  values c := by rw [start.valueAfter_concat]; exact h.values c
  faults c := by
    rw [start.faultAfter_concat, ← h.faults, Incident.fault?]
    change (if c = code then fault.map Failure.system else d.device.faults c) = _
    split <;> rfl
  ending := h.ending
  dropping := h.dropping.trans (by simp [stale_concat, Incident.isReport, Incident.isDropped])
  isOpen := h.isOpen

end Behind

theorem takePosition_eq (d : PhysicalDevice) (j : Journal) (e : InputEvent) :
    ∃ j', d.takePosition j e =
      ⟨.ok (), d.enqueue ((Axis.ofCode? e.code).toList.map fun a => ⟨⟨d.name, a⟩, e.value⟩),
        j'⟩ := by
  unfold takePosition
  cases Axis.ofCode? e.code with
  | some a => exact ⟨j, rfl⟩
  | none => exact ⟨_, by rw [Option.toList_none, List.map_nil, enqueue_nil]⟩

/-- Behind an event there is pending what it gives, and it is known whether events are stale. -/
theorem Behind.takeEvent (h : Behind name start before d) (hs : start.Undisturbed) (j : Journal)
    (e : InputEvent) :
    ∃ j', d.takeEvent j e =
      ⟨.ok (), { d.enqueue (start.told before name (.event e)) with
        isDropping := stale (before ++ [.event e]) }, j'⟩ := by
  -- an event that gives nothing and leaves the packet as it is leaves the device as it is
  have idle : ∀ b, d.isDropping = b → d = { d.enqueue [] with isDropping := b } := by
    rintro _ rfl
    rw [enqueue_nil]
  rw [stale_concat, Incident.isReport, Incident.isDropped, EventDevice.told, ← h.dropping,
    PhysicalDevice.takeEvent]
  by_cases hd : e.isDropped = true
  · rw [if_pos hd, hd, InputEvent.isReport_of_isDropped hd, InputEvent.isPosition_of_isDropped hd,
      if_neg Bool.false_ne_true, if_neg Bool.false_ne_true, ite_self, Bool.or_true, enqueue_nil]
    exact ⟨_, rfl⟩
  rw [if_neg hd, Bool.eq_false_iff.mpr hd, Bool.or_false]
  by_cases hp : d.isDropping = true
  · rw [if_pos hp, if_pos hp]
    by_cases hr : e.isReport = true
    · rw [if_pos hr, if_pos hr, hr, ← h.filterMap_current?]
      exact resynchronize_eq d.axes (d := { d with isDropping := false }) j (h.failsBySystem hs)
    · rw [if_neg hr, if_neg hr, Bool.eq_false_iff.mpr hr]
      exact ⟨j, congrArg (Outcome.mk _ · j) (idle _ (by simp))⟩
  · rw [if_neg hp, if_neg hp]
    have hp' : (!e.isReport && d.isDropping) = d.isDropping := by simp [hp]
    rw [hp']
    by_cases hx : e.isPosition = true
    · rw [if_pos hx, if_pos hx, ← h.name]
      exact d.takePosition_eq j e
    · rw [if_neg hx, if_neg hx]
      exact ⟨j, congrArg (Outcome.mk _ · j) (idle _ rfl)⟩

/-- What an incident gives is pending behind it. -/
theorem Behind.take (h : Behind name start before d) (hs : start.Undisturbed) (j : Journal)
    {i : Incident} (hi : i ≠ .closed) :
    ∃ d' j', d.take j i = ⟨.ok (), d', j'⟩ ∧ Behind name start (before ++ [i]) d' ∧
      d'.pending = d.pending ++ start.told before name i := by
  cases i with
  | event e =>
      obtain ⟨j', hj'⟩ := h.takeEvent hs j e
      exact ⟨_, j', hj', h.event e _, rfl⟩
  | moved code value => exact ⟨_, j, rfl, h.setValue code value, (List.append_nil _).symm⟩
  | faulted code fault => exact ⟨_, j, rfl, h.setFault code fault, (List.append_nil _).symm⟩
  | closed => exact absurd rfl hi

/-! ### All of them -/

/-- The device is still to hand out these updates: those that are pending and those to come. -/
def Owes (name : String) (start : EventDevice) (us : List Update) (d : PhysicalDevice) : Prop :=
  ∃ before, Behind name start before d ∧ Incident.closed ∉ d.device.incidents ∧
    us = d.pending ++ start.toldBy name before d.device.incidents

/-- What the device hands out is the first of these updates, and it is still to hand out the
others. -/
def Answers (name : String) (start : EventDevice) (us : List Update)
    (o : Outcome PhysicalDevice (Option Update)) : Prop :=
  match us with
  | [] => o.result = .ok none
  | u :: us => o.result = .ok (some u) ∧ Owes name start us o.device

/-- A device that is removed ends the stream like one that has no more to tell. -/
theorem result_settle_finish (h : Behind name start before d) (hs : start.Undisturbed)
    (j : Journal) : (settle (d.finish j)).result = .ok none := by
  unfold finish
  rw [h.ending]
  cases he : start.ending with
  | none => rfl
  | some e =>
      obtain ⟨s, rfl, hn⟩ := hs.ending e he
      simp [settle, farewell?, h.isOpen, hn]

theorem answers_settle_advance (hs : start.Undisturbed) (incidents : List Incident) :
    ∀ {before : List Incident} {d : PhysicalDevice} (j : Journal),
      Behind name start before d → d.pending = [] → Incident.closed ∉ incidents →
      Answers name start (start.toldBy name before incidents) (settle (d.advance j incidents)) := by
  induction incidents with
  | nil => exact fun j h _ _ => result_settle_finish h hs j
  | cons i rest ih =>
      intro before d j h hp hc
      obtain ⟨hi, hc⟩ := not_or.mp (List.mem_cons.not.mp hc)
      obtain ⟨d', j', hd', h', hp'⟩ := h.take hs j (Ne.symm hi)
      rw [hp, List.nil_append] at hp'
      rw [EventDevice.toldBy, ← hp', advance, hd']
      -- an incident that gives nothing is passed over
      cases hq : d'.pending with
      | nil => exact ih j' h' hq hc
      | cons u pending =>
          exact ⟨rfl, before ++ [i], h'.of_fields pending rest, hc, rfl⟩

theorem answers_next {us : List Update} (hs : start.Undisturbed) (h : Owes name start us d)
    (j : Journal) : Answers name start us (d.next j) := by
  obtain ⟨before, h, hc, rfl⟩ := h
  unfold next
  cases hp : d.pending with
  | nil =>
      dsimp only
      rw [h.isOpen, if_neg Bool.false_ne_true]
      exact answers_settle_advance hs _ j h hp hc
  | cons u pending =>
      exact ⟨rfl, before, h.of_fields pending _, hc, rfl⟩

theorem result_drain_of_none {j : Journal} (h : (d.next j).result = .ok none) :
    (d.drain j).result = .ok [] := by
  rw [drain]
  split
  · next h' => rw [h] at h'; cases h'
  · rfl
  · next h' => rw [h] at h'; cases h'

theorem result_drain_of_some {j : Journal} {u : Update} (h : (d.next j).result = .ok (some u)) :
    (d.drain j).result = ((d.next j).device.drain (d.next j).journal).result.map (u :: ·) := by
  rw [drain]
  split
  · next h' => rw [h] at h'; cases h'
  · next h' => rw [h] at h'; cases h'
  · next h' => rw [h] at h'; cases h'; rfl

theorem result_drain {us : List Update} (hs : start.Undisturbed) (h : Owes name start us d)
    (j : Journal) : (d.drain j).result = .ok us := by
  induction us generalizing d j with
  | nil => exact result_drain_of_none (answers_next hs h j)
  | cons u us ih =>
      obtain ⟨hu, h'⟩ := answers_next hs h j
      rw [result_drain_of_some hu, ih h']
      rfl

/-- **The updates of a device are told by its stream.**  Asking for the next update until there is
none gives, one after another, what the incidents give: the positions of known axes while nothing
is stale, and a census where a stale packet ends. -/
theorem drain_ofDevice {device : EventDevice} (h : device.Undisturbed) (name path : String)
    (j j' : Journal) :
    ((ofDevice name path device j).1.drain j').result = .ok (device.updates name) :=
  result_drain h ⟨[], ⟨rfl, rfl, fun _ => rfl, fun _ => rfl, rfl, rfl, rfl⟩, h.stays, rfl⟩ j'

/-- A stick with the axes `X`, `Y`, `Z` and a hat.  Twice a packet is lost: in the first the stick
moves and `Z` cannot be read, in the second `Y` cannot.  A third one is never whole, since the stick
is removed. -/
def shaken : EventDevice where
  path := "/dev/input/event7"
  label := "Stick"
  vendor := 1
  product := 2
  codes := [16, 2, 1, 0]
  values code := 100 * code
  faults code := if code = 2 then some (.system .permissionDenied) else none
  incidents :=
    [.event ⟨3, 0, 5⟩, .event ⟨0, 3, 0⟩, .event ⟨3, 0, 50⟩, .event ⟨0, 3, 0⟩, .moved 0 70,
      .event ⟨0, 0, 0⟩, .event ⟨3, 16, 1⟩, .event ⟨3, 1, 8⟩, .faulted 2 none,
      .faulted 1 (some .permissionDenied), .event ⟨0, 3, 0⟩, .event ⟨0, 0, 0⟩, .event ⟨0, 0, 0⟩,
      .event ⟨0, 3, 0⟩, .event ⟨3, 2, 9⟩]
  ending := some (.system ⟨SystemError.noSuchDevice, "No such device", none⟩)
  closeFault := none

theorem undisturbed_shaken : shaken.Undisturbed where
  stays := by decide
  faults code e h := by
    obtain ⟨-, h⟩ := Option.ite_none_right_eq_some.mp h
    cases h
    exact ⟨_, rfl⟩
  ending e h := by
    cases h
    exact ⟨_, rfl, rfl⟩

/-- Each lost packet makes one update for each axis that can be read when it ends. -/
theorem drain_ofDevice_shaken :
    ((ofDevice "stick" "/dev/input/event7" shaken {}).1.drain {}).result =
      .ok [⟨⟨"stick", .x⟩, 5⟩, ⟨⟨"stick", .x⟩, 70⟩, ⟨⟨"stick", .y⟩, 100⟩, ⟨⟨"stick", .y⟩, 8⟩,
        ⟨⟨"stick", .x⟩, 70⟩, ⟨⟨"stick", .z⟩, 200⟩] :=
  (drain_ofDevice undisturbed_shaken "stick" "/dev/input/event7" {} {}).trans
    (congrArg Except.ok (by decide +kernel))

end PhysicalDevice

end AxisMixer
