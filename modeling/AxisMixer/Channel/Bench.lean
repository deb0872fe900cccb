import AxisMixer.Channel.Listener
import AxisMixer.OrderedMap

/-!
# Listening on the bench — devices that hand out what they are told to

* `ScriptedDevice`: a device with its answers laid down.
* `ListeningBench`: a channel, and listeners for such devices.  A listener whose device keeps its
  first answer back is at work until the device is released.
-/

namespace AxisMixer

structure ScriptedDevice where
  name : String
  /-- The answers to come.  An end of the stream may be followed by further answers. -/
  answers : List (Except Failure (Option Update))

namespace ScriptedDevice

/-- The next answer; behind the last one the stream has come to its end. -/
def next (d : ScriptedDevice) (j : Journal) : Outcome ScriptedDevice (Option Update) :=
  match d.answers with
  | [] => ⟨.ok none, d, j⟩
  | answer :: answers => ⟨answer, { d with answers }, j⟩

def source : UpdateSource ScriptedDevice where
  name := ScriptedDevice.name
  next := next
  remaining d := d.answers.length
  remaining_next_lt d j u h := by
    unfold next at h ⊢
    split
    · next ha => rw [ha] at h; simp at h
    · next ha => simp [ha]

end ScriptedDevice

/-- A listener on the bench. -/
structure BenchListener where
  device : ScriptedDevice
  /-- The device keeps its first answer back. -/
  isHeld : Bool
  /-- The listener has been started and waits for its device. -/
  isWaiting : Bool := false

structure ListeningBench where
  channel : Channel := {}
  listeners : OrderedMap String BenchListener := .empty
  journal : Journal := {}

namespace ListeningBench

/-- Makes a listener for a device with these answers; it is a producer from now on. -/
def addListener (b : ListeningBench) (name : String)
    (answers : List (Except Failure (Option Update))) (isHeld : Bool) : ListeningBench :=
  { b with
    channel := b.channel.openProducer
    listeners := b.listeners.insert name { device := ⟨name, answers⟩, isHeld } }

/-- Lets the listener do its work to the end. -/
def complete (b : ListeningBench) (name : String) (l : BenchListener) : ListeningBench :=
  let r := Listener.listen ScriptedDevice.source ⟨l.device, b.channel, b.journal⟩
  { channel := r.channel
    listeners := b.listeners.insert name { l with device := r.device, isWaiting := false }
    journal := r.journal }

/-- Starts the listener called so, unless it is at work. -/
def start (b : ListeningBench) (name : String) : Bool × ListeningBench :=
  match b.listeners.find? name with
  | none => (false, b)
  | some l =>
    if l.isWaiting then (false, b)
    else
      let b := { b with journal := Listener.begin name b.journal }
      if l.isHeld then
        (true, { b with listeners := b.listeners.insert name { l with isWaiting := true } })
      else (true, b.complete name l)

/-- Lets the device called so give its answers from now on. -/
def release (b : ListeningBench) (name : String) : ListeningBench :=
  match b.listeners.find? name with
  | none => b
  | some l =>
    let l := { l with isHeld := false }
    if l.isWaiting then b.complete name l
    else { b with listeners := b.listeners.insert name l }

end ListeningBench

end AxisMixer
