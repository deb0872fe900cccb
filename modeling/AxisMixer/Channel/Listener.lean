import AxisMixer.Channel.Basic
import AxisMixer.Device.Journal

/-!
# Listeners — from a device into the channel

A listener asks one device for its updates until the device has no more, sends each of them into
the channel, and tells the channel that it has come to its end, also if the device fails.

* `UpdateSource`: a kind of device that can be listened to.
* `Listener.run`: the work of a listener.
* `Listener.runAll`: the work of several of them.
-/

namespace AxisMixer

/-- Devices of type `δ` that hand out updates one after another, but not without end. -/
structure UpdateSource (δ : Type) where
  name : δ → String
  next : δ → Journal → Outcome δ (Option Update)
  /-- A bound on the updates to come. -/
  remaining : δ → Nat
  remaining_next_lt : ∀ d j u, (next d j).result = .ok (some u) →
    remaining (next d j).device < remaining d

/-- A listener's device, the channel, and the journal. -/
structure Relay (δ : Type) where
  device : δ
  channel : Channel
  journal : Journal

namespace Listener

variable {δ : Type}

def note (j : Journal) (level : Level) (message : String) : Journal :=
  j.note .listener level message

/-- What the log says when the listener for this device starts. -/
def begin (name : String) (j : Journal) : Journal :=
  note j .debug ("Listener thread for device " ++ name ++ " started.")

/-- Sends the update into the channel. -/
def send (r : Relay δ) (u : Update) : Relay δ :=
  { r with
    channel := r.channel.send u
    journal := note r.journal .debug
      ("Forwarding update " ++ u.key.text ++ "=" ++ toString u.value ++ ".") }

/-- Forwards updates until the device has no more or fails. -/
def forward (source : UpdateSource δ) (r : Relay δ) : Except Failure Unit × Relay δ :=
  match _h : (source.next r.device r.journal).result with
  | .ok none =>
    let o := source.next r.device r.journal
    (.ok (), { r with device := o.device, journal := o.journal })
  | .error e =>
    let o := source.next r.device r.journal
    (.error e, { r with device := o.device, journal := o.journal })
  | .ok (some u) =>
    let o := source.next r.device r.journal
    forward source (send { r with device := o.device, journal := o.journal } u)
termination_by source.remaining r.device
decreasing_by exact source.remaining_next_lt _ _ _ _h

/-- Tells the channel that the listener has come to its end. -/
def finish (source : UpdateSource δ) (result : Except Failure Unit) (r : Relay δ) : Relay δ :=
  let name := source.name r.device
  let failed := match result with
    | .ok () => false
    | .error e => e.isError
  let j := if failed then note r.journal .error ("Listener for device " ++ name ++ " failed")
    else r.journal
  { r with
    channel := r.channel.closeProducer
    journal := note j .debug ("Listener thread for device " ++ name ++ " finished.") }

/-- What a listener does behind its start. -/
def listen (source : UpdateSource δ) (r : Relay δ) : Relay δ :=
  let (result, r) := forward source r
  finish source result r

/-- The whole work of a listener. -/
def run (source : UpdateSource δ) (r : Relay δ) : Relay δ :=
  listen source { r with journal := begin (source.name r.device) r.journal }

/-- The listeners of these devices run, one after another. -/
def runAll (source : UpdateSource δ) (c : Channel) (j : Journal) :
    List δ → List δ × Channel × Journal
  | [] => ([], c, j)
  | d :: rest =>
    let r := run source ⟨d, c, j⟩
    let (rest, c, j) := runAll source r.channel r.journal rest
    (r.device :: rest, c, j)

end Listener

end AxisMixer
