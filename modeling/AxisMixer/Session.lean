import AxisMixer.Channel.Listener
import AxisMixer.Device.Discovery
import AxisMixer.Device.Physical
import AxisMixer.Device.Virtual
import AxisMixer.Engine.Basic

/-!
# Sessions — a configuration at work

A session opens the physical devices, builds the graph, creates the virtual devices, and then
propagates updates until every physical device has come to its end.  Whatever happens, the virtual
devices are destroyed and after them the physical ones closed.  The exceptions are failures that
nobody can foresee: one while devices are being opened or created leaves those of that kind as they
are, and one while a device is being closed leaves the devices behind it open.

* `Session.openAll`, `Session.createAll`: acquiring the devices.
* `Session.serve`: what is done with them.
* `Session.run`: the whole session.
-/

namespace AxisMixer.Session

def note (j : Journal) (level : Level) (message : String) : Journal := j.note .program level message

/-! ### Releasing -/

/-- Closes the devices one after another, up to one that cannot be closed. -/
def closeAll (j : Journal) : List PhysicalDevice → Except Failure Unit × Journal
  | [] => (.ok (), j)
  | d :: rest =>
    let o := d.close j
    match o.result with
    | .ok () => closeAll o.journal rest
    | .error e => (.error e, o.journal)

def destroyAll (j : Journal) (devices : List VirtualDevice) : Journal :=
  devices.foldl (fun j d => d.destroy j) j

/-- A result, unless releasing the devices fails. -/
def unlessFailed {α : Type} (result : Except Failure α) : Except Failure Unit → Except Failure α
  | .ok () => result
  | .error e => .error e

/-- Whether devices acquired so far are released because of the failure. -/
def isForeseen : Failure → Bool
  | .configuration _ => true
  | _ => false

/-! ### Acquiring -/

/-- The path that a matcher stands for.  The devices of the host are searched when the first
matcher needs it. -/
def locate (host : Host) (found? : Option Discovery.Found) (matcher : Matcher) (j : Journal) :
    Except Failure String × Option Discovery.Found × Journal :=
  match matcher, found? with
  | .atPath path, _ => (.ok path, found?, j)
  | .withIds _ _, some found =>
    let (result, j) := Discovery.resolve found matcher j
    (result, found?, j)
  | .withIds _ _, none =>
    match Discovery.search host j with
    | (.error e, j) => (.error e, none, j)
    | (.ok found, j) =>
      let (result, j) := Discovery.resolve found matcher j
      (result, some found, j)

/-- Locates and opens a physical device. -/
def openOne (host : Host) (found? : Option Discovery.Found) (name : String) (matcher : Matcher)
    (j : Journal) : Except Failure PhysicalDevice × Option Discovery.Found × Journal :=
  match locate host found? matcher j with
  | (.error e, found?, j) => (.error e, found?, j)
  | (.ok path, found?, j) =>
    let (result, j) := PhysicalDevice.openAt host name path j
    (result, found?, j)

/-- Opens the physical devices one after another, behind those that are open. -/
def openAll (host : Host) (found? : Option Discovery.Found) (opened : List PhysicalDevice)
    (j : Journal) : List (String × Matcher) → Except Failure (List PhysicalDevice) × Journal
  | [] => (.ok opened, j)
  | (name, matcher) :: rest =>
    match openOne host found? name matcher j with
    | (.ok d, found?, j) => openAll host found? (opened ++ [d]) j rest
    | (.error e, _, j) =>
      if isForeseen e then
        let (closing, j) := closeAll j opened
        (unlessFailed (.error e) closing, j)
      else (.error e, j)

/-- Creates the virtual devices one after another, behind those that are there. -/
def createAll (host : Host) (created : List VirtualDevice) (j : Journal) :
    List (String × Output) → Except Failure (List VirtualDevice) × Journal
  | [] => (.ok created, j)
  | (name, output) :: rest =>
    match VirtualDevice.create host name output j with
    | (.ok d, j) => createAll host (created ++ [d]) j rest
    | (.error e, j) => (.error e, if isForeseen e then destroyAll j created else j)

/-! ### The devices as the engine sees them -/

/-- What the engine acts on. -/
structure World where
  physical : List PhysicalDevice
  journal : Journal

/-- The device that the configuration calls so. -/
def named? (physical : List PhysicalDevice) (name : String) : Option PhysicalDevice :=
  physical.find? fun d => d.name == name

def view (physical : List PhysicalDevice) : SourceView String where
  name := id
  supports name axis := (named? physical name).any fun d => d.supports axis

def read (name : String) (axis : Axis) (w : World) : Except Failure Int × World :=
  match named? w.physical name with
  | some d => (d.read axis, w)
  | none => (.error (.propagation (.readFailed ⟨name, axis⟩ "device is not defined")), w)

def write (host : Host) (d : VirtualDevice) (axis : Axis) (value : Int) (w : World) :
    Except Failure Unit × World :=
  let (result, journal) := d.write host axis value w.journal
  (result, { w with journal })

def access (host : Host) : DeviceAccess String VirtualDevice World := ⟨read, write host⟩

/-- The physical devices under their names. -/
def sources (physical : List PhysicalDevice) : OrderedMap String String :=
  .ofList (physical.map fun d => (d.name, d.name))

/-- The virtual devices under their names. -/
def outputs (virtual : List VirtualDevice) : OrderedMap String VirtualDevice :=
  .ofList (virtual.map fun d => (d.name, d))

/-! ### Listening -/

/-- Physical devices can be listened to. -/
def source : UpdateSource PhysicalDevice where
  name := PhysicalDevice.name
  next := PhysicalDevice.next
  remaining := PhysicalDevice.remaining
  remaining_next_lt d j _ h := d.remaining_next_lt j h

/-! ### Serving -/

def startMessage (graph : Graph String) : String :=
  "Propagating " ++ toString graph.size ++ " physical axes to " ++
    toString graph.virtAxes.length ++ " virtual axes"

def endMessage (stats : Stats) : String :=
  "All physical devices are gone (" ++ toString stats.received ++ " updates, " ++
    toString stats.written ++ " writes, " ++ toString stats.failed ++ " failures)"

/-- Listens to the physical devices and lets the engine handle what they send. -/
def propagate (host : Host) (engine : Engine String VirtualDevice)
    (physical : List PhysicalDevice) (j : Journal) :
    Except Failure Unit × List PhysicalDevice × Journal :=
  let (physical, channel, j) :=
    Listener.runAll source { producers := physical.length } j physical
  let j := note j .info (startMessage engine.graph)
  let start : Engine.Run String VirtualDevice World := ⟨engine, ⟨physical, j⟩, #[]⟩
  let (result, run) := (Engine.handleAll (access host) channel.drain.1).run start
  let j := run.world.journal.append run.log
  match result with
  | .ok () => (.ok (), physical, note j .info (endMessage run.engine.stats))
  | .error e => (.error e, physical, j)

/-- The devices to be released at the end of a session. -/
structure Held where
  physical : List PhysicalDevice
  virtual : List VirtualDevice := []

/-- What a session does with its physical devices.  The graph is built before any virtual device
appears. -/
def serve (host : Host) (config : Config) (failFast : Bool) (physical : List PhysicalDevice)
    (j : Journal) : Except Failure Unit × Held × Journal :=
  let (built, log) := Graph.build (view physical) (sources physical) config.virtual
  let j := j.append log
  match built with
  | .error e => (.error (.configuration (.dependency e)), { physical }, j)
  | .ok graph =>
    match createAll host [] j config.virtual.entries with
    | (.error e, j) => (.error e, { physical }, j)
    | (.ok virtual, j) =>
      match Engine.create graph (outputs virtual) failFast with
      | .error names =>
        (.error (.configuration (.missingOutputs names)), { physical, virtual }, j)
      | .ok engine =>
        let (result, physical, j) := propagate host engine physical j
        (result, { physical, virtual }, j)

/-- Releases the devices of a session. -/
def release (held : Held) (j : Journal) : Except Failure Unit × Journal :=
  closeAll (destroyAll j held.virtual) held.physical

def run (host : Host) (config : Config) (failFast : Bool) (j : Journal) :
    Except Failure Unit × Journal :=
  match openAll host none [] j config.physical.entries with
  | (.error e, j) => (.error e, j)
  | (.ok physical, j) =>
    let (result, held, j) := serve host config failFast physical j
    let (closing, j) := release held j
    (unlessFailed result closing, j)

end AxisMixer.Session
