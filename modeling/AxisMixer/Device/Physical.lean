import AxisMixer.Device.Host

/-!
# Physical devices — updates out of events

A physical device is an event device under the name that the configuration gives it.  Each event
that tells the position of a known axis makes an update.  Where events were dropped, all events up
to the end of the packet are skipped; then the current value of every axis is read, and these make
updates that are handed out before anything else.

The end of the stream is `none`, and so is the removal of the device, and any trouble with a device
that has been closed.

* `PhysicalDevice.read`: the current value of an axis.
* `PhysicalDevice.next`, `PhysicalDevice.drain`: the next update, and all of them.
* `PhysicalDevice.remaining`: a bound on the updates to come, which each update lowers.
-/

namespace AxisMixer

structure PhysicalDevice where
  name : String
  path : String
  device : EventDevice
  /-- Updates that are ready to be handed out. -/
  pending : List Update := []
  /-- Events were dropped and the packet has not come to its end. -/
  isDropping : Bool := false
  isClosed : Bool := false

namespace PhysicalDevice

def component : Component := .physicalDevice

/-! ### Opening -/

/-- What the log says when a device is taken into use. -/
def openedMessage (name path : String) (device : EventDevice) : String :=
  "Opened event device '" ++ path ++ "' (" ++ device.label ++ ") as '" ++ name ++ "'"

/-- Takes an open event device into use. -/
def ofDevice (name path : String) (device : EventDevice) (j : Journal) :
    PhysicalDevice × Journal :=
  ({ name, path, device }, j.note component .info (openedMessage name path device))

/-- Opens the event device at the path. -/
def openAt (host : Host) (name path : String) (j : Journal) :
    Except Failure PhysicalDevice × Journal :=
  match host.openDevice path j with
  | (.ok device, j) =>
    let (d, j) := ofDevice name path device j
    (.ok d, j)
  | (.error (.system e), j) => (.error (.configuration (.device (.cannotOpen path name e))), j)
  | (.error e, j) => (.error e, j)

/-! ### Reading -/

def supports (d : PhysicalDevice) (a : Axis) : Bool := d.device.codes.contains a.code

/-- The axes that the device has, in the order of their codes. -/
def axes (d : PhysicalDevice) : List Axis := Axis.all.filter d.supports

/-- The current value of an axis. -/
def read (d : PhysicalDevice) (a : Axis) : Except Failure Int :=
  if d.supports a then
    match d.device.valueOf a.code with
    | .error (.system e) => .error (.propagation (.readFailed ⟨d.name, a⟩ e.message))
    | result => result
  else .error (.propagation (.readFailed ⟨d.name, a⟩ "axis not supported by device"))

/-! ### Closing -/

/-- Closes the device.  What the operating system objects is only logged. -/
def close (d : PhysicalDevice) (j : Journal) : Outcome PhysicalDevice Unit :=
  let d := { d with isClosed := true }
  match d.device.close j with
  | (.error (.system e), j) =>
    ⟨.ok (), d,
      j.note component .warning ("Error closing device " ++ d.path ++ ": " ++ e.message)⟩
  | (result, j) => ⟨result, d, j⟩

/-! ### Events -/

/-- Makes an update pending for each of the axes.  An axis that cannot be read is left out. -/
def resynchronize (d : PhysicalDevice) (j : Journal) : List Axis → Outcome PhysicalDevice Unit
  | [] => ⟨.ok (), d, j⟩
  | a :: rest =>
    match d.read a with
    | .ok value =>
      resynchronize { d with pending := d.pending ++ [⟨⟨d.name, a⟩, value⟩] } j rest
    | .error (.propagation e) =>
      let key : AxisKey := ⟨d.name, a⟩
      let message := "Resynchronizing " ++ key.text ++ " failed: " ++ e.message
      resynchronize d (j.note component .warning message) rest
    | .error e => ⟨.error e, d, j⟩

/-- Takes in the position that an event tells. -/
def takePosition (d : PhysicalDevice) (j : Journal) (e : InputEvent) :
    Outcome PhysicalDevice Unit :=
  match Axis.ofCode? e.code with
  | some a => ⟨.ok (), { d with pending := d.pending ++ [⟨⟨d.name, a⟩, e.value⟩] }, j⟩
  | none =>
    let message := "Unhandled event code " ++ toString e.code ++ " on '" ++ d.name ++ "'"
    ⟨.ok (), d, j.note component .debug message⟩

def takeEvent (d : PhysicalDevice) (j : Journal) (e : InputEvent) : Outcome PhysicalDevice Unit :=
  if e.isDropped then
    let message := "Events dropped on '" ++ d.name ++ "', resynchronizing"
    ⟨.ok (), { d with isDropping := true }, j.note component .debug message⟩
  else if d.isDropping then
    if e.isReport then { d with isDropping := false }.resynchronize j d.axes else ⟨.ok (), d, j⟩
  else if e.isPosition then d.takePosition j e
  else ⟨.ok (), d, j⟩

def setValue (d : PhysicalDevice) (code value : Int) : PhysicalDevice :=
  { d with device := d.device.setValue code value }

def setFault (d : PhysicalDevice) (code : Int) (fault : Option Failure) : PhysicalDevice :=
  { d with device := d.device.setFault code fault }

/-- Takes in one incident. -/
def take (d : PhysicalDevice) (j : Journal) : Incident → Outcome PhysicalDevice Unit
  | .event e => d.takeEvent j e
  | .moved code value => ⟨.ok (), d.setValue code value, j⟩
  | .faulted code fault => ⟨.ok (), d.setFault code (fault.map .system), j⟩
  | .closed => d.close j

/-! ### Updates -/

def withIncidents (d : PhysicalDevice) (incidents : List Incident) : PhysicalDevice :=
  { d with device := { d.device with incidents } }

/-- What the stream gives behind its incidents; it fails only once. -/
def finish (d : PhysicalDevice) (j : Journal) : Outcome PhysicalDevice (Option Update) :=
  let ended := { d with device := { d.device with incidents := [], ending := none } }
  match d.device.ending with
  | some e => ⟨.error e, ended, j⟩
  | none => ⟨.ok none, ended, j⟩

/-- Takes in incidents until there is an update to be handed out. -/
def advance (d : PhysicalDevice) (j : Journal) :
    List Incident → Outcome PhysicalDevice (Option Update)
  | [] => d.finish j
  | incident :: rest =>
    let o := d.take j incident
    match o.result, o.device.pending with
    | .error e, _ => ⟨.error e, o.device.withIncidents rest, o.journal⟩
    | .ok (), update :: pending =>
      ⟨.ok (some update), { o.device with pending }.withIncidents rest, o.journal⟩
    | .ok (), [] => advance o.device o.journal rest

/-- What the log says of a device whose stream has failed, with the level, if that is an end of the
stream like any other. -/
def farewell? (d : PhysicalDevice) (e : Failure) : Option (Level × String) :=
  let start := "Event device '" ++ d.path ++ "' (" ++ d.name ++ ") was "
  match e with
  | .system e =>
    if d.isClosed then some (.debug, start ++ "closed")
    else if e.number = SystemError.noSuchDevice then some (.info, start ++ "removed")
    else none
  | .invalidValue => if d.isClosed then some (.debug, start ++ "closed") else none
  | _ => none

/-- Turns a failure that is an end of the stream into one. -/
def settle (o : Outcome PhysicalDevice (Option Update)) : Outcome PhysicalDevice (Option Update) :=
  match o.result with
  | .ok _ => o
  | .error e =>
    match o.device.farewell? e with
    | some (level, message) => ⟨.ok none, o.device, o.journal.note component level message⟩
    | none => o

/-- The next update, or `none` at the end of the stream. -/
def next (d : PhysicalDevice) (j : Journal) : Outcome PhysicalDevice (Option Update) :=
  match d.pending with
  | update :: pending => ⟨.ok (some update), { d with pending }, j⟩
  | [] => if d.isClosed then ⟨.ok none, d, j⟩ else settle (d.advance j d.device.incidents)

/-! ### A bound on the updates to come -/

/-- No incident makes more updates than there are axes. -/
def remaining (d : PhysicalDevice) : Nat :=
  d.pending.length + (Axis.all.length + 1) * d.device.incidents.length

theorem length_pending_resynchronize (d : PhysicalDevice) (j : Journal) (axes : List Axis) :
    (d.resynchronize j axes).device.pending.length ≤ d.pending.length + axes.length := by
  fun_induction resynchronize d j axes with
  | case1 => simp
  | case2 d j a rest value _ ih =>
    simp only [List.length_append, List.length_cons, List.length_nil] at ih ⊢
    omega
  | case3 d j a rest e _ key message ih =>
    simp only [List.length_cons]
    omega
  | case4 => simp

theorem length_axes_le (d : PhysicalDevice) : d.axes.length ≤ Axis.all.length :=
  List.length_filter_le _ _

theorem pending_close (d : PhysicalDevice) (j : Journal) :
    (d.close j).device.pending = d.pending := by
  unfold close
  dsimp only
  split <;> rfl

theorem length_pending_takeEvent (d : PhysicalDevice) (j : Journal) (e : InputEvent) :
    (d.takeEvent j e).device.pending.length ≤ d.pending.length + Axis.all.length := by
  have one : 1 ≤ Axis.all.length := by decide
  unfold takeEvent takePosition
  split
  · simp
  · split
    · split
      · exact Nat.le_trans (length_pending_resynchronize _ _ _)
          (Nat.add_le_add_left d.length_axes_le _)
      · simp
    · split
      · split
        · simpa using one
        · simp
      · simp

theorem length_pending_take (d : PhysicalDevice) (j : Journal) (incident : Incident) :
    (d.take j incident).device.pending.length ≤ d.pending.length + Axis.all.length := by
  cases incident with
  | event e => exact d.length_pending_takeEvent j e
  | moved code value => exact Nat.le_add_right _ _
  | faulted code fault => exact Nat.le_add_right _ _
  | closed => simp [take, pending_close]

theorem remaining_advance_lt (d : PhysicalDevice) (j : Journal) (incidents : List Incident)
    {u : Update} (none_pending : d.pending = [])
    (h : (d.advance j incidents).result = .ok (some u)) :
    (d.advance j incidents).device.remaining < (Axis.all.length + 1) * incidents.length := by
  fun_induction advance d j incidents with
  | case1 d j =>
    unfold finish at h
    dsimp only at h
    split at h <;> simp at h
  | case2 => simp at h
  | case3 d j incident rest o update pending hp =>
    have bound := d.length_pending_take j incident
    rw [none_pending, show (d.take j incident).device.pending = update :: pending from hp] at bound
    simp only [List.length_cons, List.length_nil, remaining, withIncidents, Nat.mul_succ] at bound ⊢
    omega
  | case4 d j incident rest o hp _ ih =>
    have := ih hp h
    simp only [List.length_cons, Nat.mul_succ]
    omega

theorem device_settle (o : Outcome PhysicalDevice (Option Update)) :
    (settle o).device = o.device := by
  unfold settle
  split
  · rfl
  · split <;> rfl

theorem result_settle {o : Outcome PhysicalDevice (Option Update)} {u : Update}
    (h : (settle o).result = .ok (some u)) : o.result = .ok (some u) := by
  unfold settle at h
  split at h
  · exact h
  · split at h
    · simp at h
    · exact h

/-- Each update lowers the bound. -/
theorem remaining_next_lt (d : PhysicalDevice) (j : Journal) {u : Update}
    (h : (d.next j).result = .ok (some u)) : (d.next j).device.remaining < d.remaining := by
  unfold next at h ⊢
  cases hp : d.pending with
  | cons update pending => simp [remaining, hp]
  | nil =>
    rw [hp] at h
    dsimp only at h ⊢
    split at h
    · simp at h
    · next hc =>
      rw [if_neg hc, device_settle]
      exact Nat.lt_of_lt_of_le (d.remaining_advance_lt j _ hp (result_settle h))
        (Nat.le_add_left _ _)

/-- All updates up to the end of the stream. -/
def drain (d : PhysicalDevice) (j : Journal) : Outcome PhysicalDevice (List Update) :=
  match _h : (d.next j).result with
  | .error e => ⟨.error e, (d.next j).device, (d.next j).journal⟩
  | .ok none => ⟨.ok [], (d.next j).device, (d.next j).journal⟩
  | .ok (some u) =>
    let rest := drain (d.next j).device (d.next j).journal
    ⟨rest.result.map (u :: ·), rest.device, rest.journal⟩
termination_by d.remaining
decreasing_by exact d.remaining_next_lt j _h

end PhysicalDevice

end AxisMixer
