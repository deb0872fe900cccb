import AxisMixer.Channel.Bench
import AxisMixer.Proofs.Engine.Statistics

/-!
# Listening — no update is lost between the devices and the engine

A device hands out updates until it has no more or fails (`UpdateSource.Yields`).  A listener puts
all of them into the channel, and behind them the end of its producer, in either case
(`Listener.channel_run`).  So when listeners have run one after another, the channel holds one
shift behind the other: the updates of a device and an end.

The consumer counts one producer for each of the ends.  It gets the updates of all shifts, and then
it is told of the end (`Channel.drain_shifts`, `Listener.drain_runAll`).

The engine may take an update out of the channel whenever it is done with the one before
(`Engine.consume`), or be handed all of them at once; this comes to the same
(`Engine.outcome_consume`).  An engine that isolates errors handles each of them to its end
(`Engine.outcome_handleAll`).

* `Engine.handled_of_listeners`: all of this together.
-/

namespace AxisMixer

/-! ### Devices and what they hand out -/

section Yields

variable {δ : Type} (source : UpdateSource δ)

/-- Whatever stands in the journal, the device hands out these updates one after another, and then
it has no more or fails. -/
inductive UpdateSource.Yields : δ → List Update → Except Failure Unit → Prop where
  | ends {d : δ} (h : ∀ j, (source.next d j).result = .ok none) : Yields d [] (.ok ())
  | fails {d : δ} {e : Failure} (h : ∀ j, (source.next d j).result = .error e) :
      Yields d [] (.error e)
  | more {d d' : δ} {u : Update} {us : List Update} {ending : Except Failure Unit}
      (h : ∀ j, (source.next d j).result = .ok (some u) ∧ (source.next d j).device = d')
      (t : Yields d' us ending) : Yields d (u :: us) ending

/-- A device of which it is known what it hands out, and how that ends. -/
structure Performer where
  device : δ
  updates : List Update
  ending : Except Failure Unit
  yields : source.Yields device updates ending

end Yields

namespace ScriptedDevice

/-- The updates in front of the first answer that is none. -/
def told : List (Except Failure (Option Update)) → List Update
  | .ok (some u) :: answers => u :: told answers
  | _ => []

/-- The first answer that is no update. -/
def ending : List (Except Failure (Option Update)) → Except Failure Unit
  | .ok (some _) :: answers => ending answers
  | .error e :: _ => .error e
  | .ok none :: _ | [] => .ok ()

theorem yields (name : String) :
    ∀ answers, source.Yields ⟨name, answers⟩ (told answers) (ending answers)
  | [] | .ok none :: _ => .ends fun _ => rfl
  | .error _ :: _ => .fails fun _ => rfl
  | .ok (some _) :: answers => .more (fun _ => ⟨rfl, rfl⟩) (yields name answers)

/-- Any answers make a device. -/
def performer (name : String) (answers : List (Except Failure (Option Update))) :
    Performer source :=
  ⟨⟨name, answers⟩, told answers, ending answers, yields name answers⟩

end ScriptedDevice

/-! ### Listeners -/

namespace Channel

/-- What a listener puts into the channel. -/
def shift (us : List Update) : List Item := us.map .update ++ [.finish]

end Channel

namespace Listener

open Channel (shift)

variable {δ : Type} {source : UpdateSource δ}

/-- The channel when a listener has been made for each of the devices. -/
def makeAll (devices : List δ) : Channel := devices.foldl (fun c _ => c.openProducer) {}

theorem makeAll_eq (devices : List δ) : makeAll devices = ⟨[], devices.length⟩ := by
  have hopen : ∀ (ds : List δ) (n : Nat),
      ds.foldl (fun c _ => c.openProducer) ⟨[], n⟩ = (⟨[], n + ds.length⟩ : Channel) := by
    intro ds
    induction ds with
    | nil => exact fun n => rfl
    | cons d ds ih =>
        intro n
        rw [List.foldl_cons, List.length_cons, Nat.add_comm ds.length, ← Nat.add_assoc]
        exact ih (n + 1)
  rw [makeAll, hopen, Nat.zero_add]

section Forward

variable {r : Relay δ}

theorem forward_of_none (h : (source.next r.device r.journal).result = .ok none) :
    forward source r = (.ok (), { r with
      device := (source.next r.device r.journal).device
      journal := (source.next r.device r.journal).journal }) := by
  rw [forward]
  split
  · rfl
  · next e he => cases h.symm.trans he
  · next u hu => cases h.symm.trans hu

theorem forward_of_error {e : Failure} (h : (source.next r.device r.journal).result = .error e) :
    forward source r = (.error e, { r with
      device := (source.next r.device r.journal).device
      journal := (source.next r.device r.journal).journal }) := by
  rw [forward]
  split
  · next hn => cases h.symm.trans hn
  · next e he =>
      cases h.symm.trans he
      rfl
  · next u hu => cases h.symm.trans hu

theorem forward_of_some {u : Update}
    (h : (source.next r.device r.journal).result = .ok (some u)) :
    forward source r = forward source (send { r with
      device := (source.next r.device r.journal).device
      journal := (source.next r.device r.journal).journal } u) := by
  rw [forward.eq_def source r]
  split
  · next hn => cases h.symm.trans hn
  · next e he => cases h.symm.trans he
  · next u hu =>
      cases h.symm.trans hu
      rfl

end Forward

/-- All updates of the device are put into the channel, and then forwarding ends as the device
does. -/
theorem forward_of_yields {d : δ} {us : List Update} {ending : Except Failure Unit}
    (h : source.Yields d us ending) :
    ∀ (c : Channel) (j : Journal), (forward source ⟨d, c, j⟩).1 = ending ∧
      (forward source ⟨d, c, j⟩).2.channel = ⟨c.queue ++ us.map .update, c.producers⟩ := by
  induction h with
  | ends h =>
      intro c j
      rw [forward_of_none (h j), List.map_nil, List.append_nil]
      exact ⟨rfl, rfl⟩
  | fails h =>
      intro c j
      rw [forward_of_error (h j), List.map_nil, List.append_nil]
      exact ⟨rfl, rfl⟩
  | @more d d' u us ending h _ ih =>
      intro c j
      obtain ⟨hu, hd⟩ := h j
      obtain ⟨hending, hchannel⟩ :=
        ih (c.send u) (send ⟨d', c, (source.next d j).journal⟩ u).journal
      rw [forward_of_some hu, hd]
      refine ⟨hending, hchannel.trans ?_⟩
      rw [Channel.send, List.append_assoc, List.singleton_append, List.map_cons]

/-- **One listener.**  It puts one shift into the channel, however its device ends. -/
theorem channel_run {d : δ} {us : List Update} {ending : Except Failure Unit}
    (h : source.Yields d us ending) (c : Channel) (j : Journal) :
    (run source ⟨d, c, j⟩).channel = ⟨c.queue ++ shift us, c.producers⟩ := by
  have hchannel := (forward_of_yields h c (begin (source.name d) j)).2
  have hclose : (run source ⟨d, c, j⟩).channel =
      (forward source ⟨d, c, begin (source.name d) j⟩).2.channel.closeProducer := rfl
  rw [hclose, hchannel, Channel.closeProducer, shift, List.append_assoc]

/-- **Listeners one after another.** -/
theorem channel_runAll :
    ∀ (ps : List (Performer source)) (c : Channel) (j : Journal),
      (runAll source c j (ps.map Performer.device)).2.1 =
        ⟨c.queue ++ (ps.map Performer.updates).flatMap shift, c.producers⟩
  | [], c, j => by
      rw [List.map_nil, List.map_nil, List.flatMap_nil, List.append_nil]
      rfl
  | p :: ps, c, j => by
      have hrest := channel_runAll ps (run source ⟨p.device, c, j⟩).channel
        (run source ⟨p.device, c, j⟩).journal
      rw [channel_run p.yields] at hrest
      rw [List.map_cons, runAll, channel_run p.yields]
      refine hrest.trans ?_
      rw [List.map_cons, List.flatMap_cons, List.append_assoc]

end Listener

/-! ### The consumer -/

namespace Channel

section Drain

variable {c c' : Channel}

theorem length_lt_of_receive {u : Update} (h : c.receive = (.update u, c')) :
    c'.queue.length < c.queue.length := by
  have hu : (receiveFrom c.producers c.queue).1 = .update u := congrArg Prod.fst h
  have hc : (receiveFrom c.producers c.queue).2 = c' := congrArg Prod.snd h
  exact hc ▸ length_receiveFrom_lt hu

theorem drain_of_finished (h : c.receive = (.finished, c')) : c.drain = ([], true, c') := by
  rw [drain]
  split
  · next hr =>
      cases h.symm.trans hr
      rfl
  · next hr => cases h.symm.trans hr
  · next hr => cases h.symm.trans hr

theorem drain_of_blocked (h : c.receive = (.blocked, c')) : c.drain = ([], false, c') := by
  rw [drain]
  split
  · next hr => cases h.symm.trans hr
  · next hr =>
      cases h.symm.trans hr
      rfl
  · next hr => cases h.symm.trans hr

theorem drain_of_update {u : Update} (h : c.receive = (.update u, c')) :
    c.drain = (u :: c'.drain.1, c'.drain.2) := by
  rw [drain]
  split
  · next hr => cases h.symm.trans hr
  · next hr => cases h.symm.trans hr
  · next hr =>
      cases h.symm.trans hr
      rfl

end Drain

/-- The consumer counts an end that it meets, and goes on. -/
theorem drain_finish (queue : List Item) (n : Nat) :
    drain ⟨.finish :: queue, n + 1⟩ = drain ⟨queue, n⟩ := by
  have hr : receive ⟨.finish :: queue, n + 1⟩ = receive ⟨queue, n⟩ := rfl
  rw [drain.eq_def, hr, ← drain.eq_def]

theorem drain_shift (queue : List Item) (n : Nat) :
    ∀ us : List Update, drain ⟨shift us ++ queue, n + 1⟩ =
      (us ++ (drain ⟨queue, n⟩).1, (drain ⟨queue, n⟩).2)
  | [] => drain_finish queue n
  | u :: us => by
      have hrest := drain_shift queue n us
      rw [shift, List.map_cons, List.cons_append, List.cons_append, drain_of_update rfl, ← shift,
        hrest, List.cons_append]

/-- **Shift behind shift.**  The consumer gets the updates of all shifts, and then the end. -/
theorem drain_shifts :
    ∀ tellings : List (List Update),
      drain ⟨tellings.flatMap shift, tellings.length⟩ = (tellings.flatten, true, {})
  | [] => drain_of_finished rfl
  | us :: tellings => by
      rw [List.flatMap_cons, List.length_cons, drain_shift, drain_shifts tellings,
        List.flatten_cons]

end Channel

/-- **Any order.**  A listener has been made for each of the devices before any of them runs.  The
consumer gets the updates of all devices in the order in which the listeners have run, and then it
is told of the end. -/
theorem Listener.drain_runAll {δ : Type} {source : UpdateSource δ}
    {made ran : List (Performer source)} (hran : ran.Perm made) (j : Journal) :
    (runAll source (makeAll (made.map Performer.device)) j (ran.map Performer.device)).2.1.drain =
      ((ran.map Performer.updates).flatten, true, {}) := by
  have hcount : (made.map Performer.device).length = (ran.map Performer.updates).length := by
    rw [List.length_map, List.length_map, hran.length_eq]
  rw [channel_runAll, makeAll_eq, hcount, List.nil_append]
  exact Channel.drain_shifts _

/-! ### The engine -/

namespace Engine

open Step

variable {S K σ : Type} {access : DeviceAccess S K σ}

/-- The running engine when it has said that the updates have come to an end. -/
def finished (run : Run S K σ) : Run S K σ :=
  { run with log := run.log.push ⟨.debug, .engine, finishMessage run.engine.stats⟩ }

/-- **Updates one after another.**  An engine that isolates errors handles each of them to its
end. -/
theorem outcome_handleAll (hc : access.Confined) :
    ∀ (us : List Update) {run : Run S K σ}, Ready run.engine →
      (handleAll access us).outcome run = (.ok (), finished (after access (us.map .handle) run))
  | [], run, _ => rfl
  | u :: us, run, hr => by
      rcases h : (handle access u).outcome run with ⟨r, next⟩
      obtain ⟨n, f, rfl, -, hnext⟩ := account_handle hc hr h
      have hready : Ready next.engine := by
        rw [hnext]
        exact ⟨hr.isolating, hr.placed, hr.full⟩
      rw [handleAll, outcome_bind, h, andThen_ok, outcome_handleAll hc us hready, List.map_cons,
        after, comply, h]

variable (access) in
/-- The engine takes an update out of the channel and handles it before it asks for the next one.
The result says whether the channel has come to its end. -/
def consume (c : Channel) : Step S K σ (Bool × Channel) :=
  match _h : c.receive with
  | (.finished, c') => do
    note .debug (finishMessage (← get).engine.stats)
    return (true, c')
  | (.blocked, c') => return (false, c')
  | (.update u, c') => do
    let _ ← handle access u
    consume c'
termination_by c.queue.length
decreasing_by exact Channel.length_lt_of_receive _h

theorem consume_of_finished {c c' : Channel} (h : c.receive = (.finished, c')) :
    consume access c = (do
      note .debug (finishMessage (← get).engine.stats)
      return (true, c')) := by
  rw [consume]
  split
  · next hr =>
      cases h.symm.trans hr
      rfl
  · next hr => cases h.symm.trans hr
  · next hr => cases h.symm.trans hr

theorem consume_of_update {c c' : Channel} {u : Update} (h : c.receive = (.update u, c')) :
    consume access c = (do
      let _ ← handle access u
      consume access c') := by
  rw [consume.eq_def]
  split
  · next hr => cases h.symm.trans hr
  · next hr => cases h.symm.trans hr
  · next hr =>
      cases h.symm.trans hr
      rfl

/-- **In turn or all at once.**  Taking updates out of a channel that comes to its end, each when
the one before is handled, is the same as handling all that the channel gives. -/
theorem outcome_consume {c c' : Channel} {us : List Update} (h : c.drain = (us, true, c'))
    (run : Run S K σ) :
    (consume access c).outcome run =
      andThen (fun _ => pure (true, c')) ((handleAll access us).outcome run) := by
  induction c using Channel.drain.induct generalizing us run with
  | case1 c last hr =>
      rw [Channel.drain_of_finished hr] at h
      cases h
      rw [consume_of_finished hr]
      rfl
  | case2 c last hr =>
      rw [Channel.drain_of_blocked hr] at h
      cases h
  | case3 c u next hr ih =>
      rw [Channel.drain_of_update hr] at h
      obtain ⟨rfl, hrest⟩ := Prod.mk.inj h
      rw [consume_of_update hr, handleAll, outcome_bind, outcome_bind]
      rcases (handle access u).outcome run with ⟨e | n, run'⟩
      · rfl
      · exact ih (Prod.ext rfl hrest) run'

theorem handled_map_handle (graph : Graph S) :
    ∀ us : List Update,
      handled graph (us.map (.handle : Update → Request S K σ)) = us.map fun u => (graph, u)
  | [] => rfl
  | u :: us => congrArg ((graph, u) :: ·) (handled_map_handle graph us)

/-! ### From the devices to the engine -/

/-- **No update is lost.**  A listener has been made for each of the devices, and then the listeners
have run in some order.  Each has put the updates of its device and one end into the channel,
however the device ends.  From the channel the consumer gets the updates of all devices in that
order, and then it is told of the end; and an engine that isolates errors handles each of them to
its end and stops, whether it takes them out in turn or is handed all of them. -/
theorem handled_of_listeners {δ : Type} {source : UpdateSource δ}
    {made ran : List (Performer source)} (hran : ran.Perm made) (hc : access.Confined)
    {graph : Graph S} {outputs : OrderedMap String K} {engine : Engine S K}
    (he : create graph outputs false = .ok engine) (hp : graph.Placed)
    (j : Journal) (world : σ) (log : Log) :
    let opened := Listener.makeAll (made.map Performer.device)
    let channel := (Listener.runAll source opened j (ran.map Performer.device)).2.1
    let told := (ran.map Performer.updates).flatten
    let start : Run S K σ := ⟨engine, world, log⟩
    let last := after access (told.map .handle) start
    (∀ p ∈ ran, ∀ c j, (Listener.run source ⟨p.device, c, j⟩).channel =
        ⟨c.queue ++ (p.updates.map .update ++ [.finish]), c.producers⟩) ∧
      channel.drain = (told, true, {}) ∧
      (handleAll access channel.drain.1).outcome start = (.ok (), finished last) ∧
      (consume access channel).outcome start = (.ok (true, {}), finished last) ∧
      last.engine.stats.received = told.length := by
  intro opened channel told start last
  have hready : Ready start.engine ∧ start.engine.stats.received = 0 := by
    rw [create] at he
    rcases ha : arenaOf graph outputs with names | arena
    · rw [ha] at he
      cases he
    · rw [ha] at he
      cases he
      exact ⟨ready_of_arenaOf ha hp {}, rfl⟩
  have hdrain : channel.drain = (told, true, {}) := Listener.drain_runAll hran j
  have hall : (handleAll access told).outcome start = (.ok (), finished last) :=
    outcome_handleAll hc told hready.1
  refine ⟨fun p _ => Listener.channel_run p.yields, hdrain, ?_, ?_, ?_⟩
  · rw [hdrain]
    exact hall
  · rw [outcome_consume hdrain, hall]
    rfl
  · have haccount := (account_after hc (told.map .handle) hready.1 (by simp)).2.received
    rw [handled_map_handle, List.length_map, hready.2, Nat.zero_add] at haccount
    exact haccount

/-- A device that fails behind its second update. -/
def pedals : Performer ScriptedDevice.source :=
  ScriptedDevice.performer "pedals"
    [.ok (some ⟨⟨"A", .x⟩, 7⟩), .ok (some ⟨⟨"C", .x⟩, 1⟩), .error (.runtime "unplugged")]

/-- A device with one update. -/
def stick : Performer ScriptedDevice.source :=
  ScriptedDevice.performer "stick" [.ok (some ⟨⟨"B", .y⟩, 2⟩), .ok none]

/-- The listener that was made last is the first to run; all three updates are received, although
one of the devices fails. -/
theorem handled_of_listeners_failing :
    [stick, pedals].Perm [pedals, stick] ∧ pedals.ending = .error (.runtime "unplugged") ∧
    ∃ graph engine,
      (Graph.build ⟨id, fun _ _ => true⟩ (.ofList [("A", "A"), ("B", "B")])
        (.ofList [("out", Rig.quotients)])).1 = .ok graph ∧
      create graph (.ofList [("out", "out")]) false = .ok engine ∧
      let devices := [pedals.device, stick.device]
      let ran := Listener.runAll ScriptedDevice.source (Listener.makeAll devices) {}
        [stick.device, pedals.device]
      let told : List Update := [⟨⟨"B", .y⟩, 2⟩, ⟨⟨"A", .x⟩, 7⟩, ⟨⟨"C", .x⟩, 1⟩]
      let start : Run String String (Rig.World String String (AxisKey → Int)) :=
        ⟨engine, ⟨fun _ => 0, []⟩, #[]⟩
      let last := after Rig.looped.access (told.map .handle) start
      ran.2.1.drain = (told, true, {}) ∧
        (consume Rig.looped.access ran.2.1).outcome start = (.ok (true, {}), finished last) ∧
        last.engine.stats.received = 3 ∧ last.engine.stats.ignored = 1 := by
  have hran : [stick, pedals].Perm [pedals, stick] := .swap pedals stick []
  obtain ⟨graph, hg⟩ : ∃ graph, (Graph.build ⟨id, fun _ _ => true⟩
      (.ofList [("A", "A"), ("B", "B")]) (.ofList [("out", Rig.quotients)])).1 = .ok graph :=
    ⟨_, rfl⟩
  obtain ⟨engine, he⟩ : ∃ engine, create graph (.ofList [("out", "out")]) false = .ok engine := by
    cases hg
    exact ⟨_, rfl⟩
  obtain ⟨-, hdrain, -, hconsume, hreceived⟩ :=
    handled_of_listeners hran Rig.looped.confined_access he (Graph.placed_of_build hg) {}
      ⟨fun _ => 0, []⟩ #[]
  refine ⟨hran, rfl, graph, engine, hg, he, hdrain, hconsume, hreceived, ?_⟩
  cases hg
  cases he
  decide +kernel

end Engine

end AxisMixer
