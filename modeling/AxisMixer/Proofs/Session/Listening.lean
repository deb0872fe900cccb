import AxisMixer.Proofs.Channel.Listening
import AxisMixer.Session

/-!
# Listening in a session — what the engine is to handle

A physical device writes into the journal, but what it hands out does not depend on what stands
there (`PhysicalDevice.alike_next`).  So it is settled when the session begins to listen what its
devices hand out and how each of them ends (`exists_yields`).

* `Session.drain_physical`: the engine is to handle the updates of the devices, one device after
  another, none of them left out.
-/

namespace AxisMixer

/-! ### Outcomes that differ in the journal -/

namespace Outcome

variable {δ α : Type}

/-- The outcomes differ in the journal, if at all. -/
structure Alike (o o' : Outcome δ α) : Prop where
  result : o.result = o'.result
  device : o.device = o'.device

end Outcome

namespace PhysicalDevice

open Outcome (Alike)

theorem alike_close (d : PhysicalDevice) (j j' : Journal) : Alike (d.close j) (d.close j') := by
  unfold close EventDevice.close
  dsimp only
  cases d.device.closeFault with
  | none => exact ⟨rfl, rfl⟩
  | some e => cases e <;> exact ⟨rfl, rfl⟩

theorem alike_resynchronize :
    ∀ (axes : List Axis) (d : PhysicalDevice) (j j' : Journal),
      Alike (d.resynchronize j axes) (d.resynchronize j' axes)
  | [], _, _, _ => ⟨rfl, rfl⟩
  | a :: rest, d, j, j' => by
      rw [resynchronize, resynchronize]
      cases d.read a with
      | ok value => exact alike_resynchronize rest _ j j'
      | error e =>
          cases e with
          | propagation e => exact alike_resynchronize rest d _ _
          | _ => exact ⟨rfl, rfl⟩

theorem alike_takePosition (d : PhysicalDevice) (j j' : Journal) (e : InputEvent) :
    Alike (d.takePosition j e) (d.takePosition j' e) := by
  rw [takePosition, takePosition]
  cases Axis.ofCode? e.code <;> exact ⟨rfl, rfl⟩

theorem alike_takeEvent (d : PhysicalDevice) (j j' : Journal) (e : InputEvent) :
    Alike (d.takeEvent j e) (d.takeEvent j' e) := by
  rw [takeEvent, takeEvent]
  split
  · exact ⟨rfl, rfl⟩
  · split
    · split
      · exact alike_resynchronize _ _ j j'
      · exact ⟨rfl, rfl⟩
    · split
      · exact d.alike_takePosition j j' e
      · exact ⟨rfl, rfl⟩

theorem alike_take (d : PhysicalDevice) (j j' : Journal) (incident : Incident) :
    Alike (d.take j incident) (d.take j' incident) := by
  cases incident with
  | event e => exact d.alike_takeEvent j j' e
  | moved code value => exact ⟨rfl, rfl⟩
  | faulted code fault => exact ⟨rfl, rfl⟩
  | closed => exact d.alike_close j j'

theorem alike_advance :
    ∀ (incidents : List Incident) (d : PhysicalDevice) (j j' : Journal),
      Alike (d.advance j incidents) (d.advance j' incidents)
  | [], d, j, j' => by
      rw [advance, advance, finish, finish]
      cases d.device.ending <;> exact ⟨rfl, rfl⟩
  | incident :: rest, d, j, j' => by
      obtain ⟨hresult, hdevice⟩ := d.alike_take j j' incident
      simp only [advance, hresult, hdevice]
      split
      · exact ⟨rfl, rfl⟩
      · exact ⟨rfl, rfl⟩
      · exact alike_advance rest _ _ _

theorem alike_settle {o o' : Outcome PhysicalDevice (Option Update)} (h : Alike o o') :
    Alike (settle o) (settle o') := by
  simp only [settle, h.result, h.device]
  split
  · exact h
  · split
    · exact ⟨rfl, rfl⟩
    · exact h

/-- What the device hands out does not depend on the journal. -/
theorem alike_next (d : PhysicalDevice) (j j' : Journal) : Alike (d.next j) (d.next j') := by
  rw [next, next]
  split
  · exact ⟨rfl, rfl⟩
  · split
    · exact ⟨rfl, rfl⟩
    · exact alike_settle (alike_advance _ d j j')

end PhysicalDevice

/-! ### The devices of a session -/

/-- Devices whose answers do not depend on the journal hand out the same updates whatever stands
in it. -/
theorem UpdateSource.exists_yields {δ : Type} {source : UpdateSource δ}
    (hs : ∀ d j j', (source.next d j).Alike (source.next d j')) (d : δ) :
    ∃ us ending, source.Yields d us ending := by
  induction hn : source.remaining d using Nat.strongRecOn generalizing d with
  | _ n ih =>
    rcases h : (source.next d {}).result with e | u
    · exact ⟨[], .error e, .fails fun j => (hs d j {}).result.trans h⟩
    · cases u with
      | none => exact ⟨[], .ok (), .ends fun j => (hs d j {}).result.trans h⟩
      | some u =>
          obtain ⟨us, ending, t⟩ :=
            ih _ (hn ▸ source.remaining_next_lt d {} u h) (source.next d {}).device rfl
          exact ⟨u :: us, ending,
            .more (fun j => ⟨(hs d j {}).result.trans h, (hs d j {}).device⟩) t⟩

namespace Session

theorem exists_performers :
    ∀ ds : List PhysicalDevice, ∃ ps : List (Performer source), ps.map Performer.device = ds
  | [] => ⟨[], rfl⟩
  | d :: rest => by
      obtain ⟨us, ending, hd⟩ := source.exists_yields PhysicalDevice.alike_next d
      obtain ⟨ps, rfl⟩ := exists_performers rest
      exact ⟨⟨d, us, ending, hd⟩ :: ps, rfl⟩

/-- **No update is lost in a session.**  What the engine is to handle are the updates of the
devices, one device after another, whichever of the devices fail. -/
theorem drain_physical (physical : List PhysicalDevice) (j : Journal) :
    ∃ ps : List (Performer source), ps.map Performer.device = physical ∧
      (Listener.runAll source ⟨[], physical.length⟩ j physical).2.1.drain =
        ((ps.map Performer.updates).flatten, true, {}) := by
  obtain ⟨ps, rfl⟩ := exists_performers physical
  refine ⟨ps, rfl, ?_⟩
  rw [← Listener.makeAll_eq]
  exact Listener.drain_runAll (.refl ps) j

end Session

end AxisMixer
