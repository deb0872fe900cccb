import AxisMixer.Device.Host

/-!
# Discovery — which event device belongs to which ids

Every event device that is listed is opened to ask it for its ids, and closed again.  Of several
devices with the same ids the first one counts.  Devices that cannot be opened and devices that do
not know their ids are left out.

* `Discovery.search`: the devices found, by their ids.
* `Discovery.resolve`: the path that a matcher stands for.
-/

namespace AxisMixer.Discovery

/-- The paths of event devices by vendor and product. -/
abbrev Found := OrderedMap (Int × Int) String

def note (j : Journal) (message : String) : Journal := j.note .discovery .debug message

/-- Takes in the device at the path. -/
def register (found : Found) (path : String) (device : EventDevice) (j : Journal) :
    Found × Journal :=
  let ids := (device.vendor, device.product)
  if ids = (0, 0) then
    (found, note j ("Event device '" ++ path ++ "' does not have known IDs. Ignoring."))
  else
    (if found.contains ids then found else found.insert ids path,
      note j ("Found event device '" ++ path ++ "' with IDs '" ++
        (Matcher.withIds ids.1 ids.2).text ++ "'."))

/-- Asks the devices at the paths one after another. -/
def searchAll (host : Host) (found : Found) (j : Journal) :
    List String → Except Failure Found × Journal
  | [] => (.ok found, j)
  | path :: rest =>
    match host.openDevice path j with
    | (.error (.system e), j) =>
      let message := "Event device '" ++ path ++ "' cannot be opened. Ignoring: " ++ e.message
      searchAll host found (note j message) rest
    | (.error e, j) => (.error e, j)
    | (.ok device, j) =>
      match device.close j with
      | (.error e, j) => (.error e, j)
      | (.ok (), j) =>
        let (found, j) := register found path device j
        searchAll host found j rest

/-- Asks all devices that the host lists. -/
def search (host : Host) (j : Journal) : Except Failure Found × Journal :=
  searchAll host .empty j host.listed

/-- The path that the matcher stands for. -/
def resolve (found : Found) (matcher : Matcher) (j : Journal) :
    Except Failure String × Journal :=
  match matcher with
  | .atPath path => (.ok path, j)
  | .withIds vendor product =>
    match found.find? (vendor, product) with
    | some path =>
      (.ok path, note j ("Using path '" ++ path ++ "' for matcher " ++ matcher.text))
    | none => (.error (.configuration (.device (.notFound matcher))), j)

end AxisMixer.Discovery
