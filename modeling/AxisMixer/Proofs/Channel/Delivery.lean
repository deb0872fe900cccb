import AxisMixer.Channel.Basic
import Mathlib.Data.List.ReduceOption

/-!
# Delivery — what the consumer of a channel gets

Producers open, send what they have to send, and close; a consumer receives.  There may be any
number of producers, and everything may happen in any order, except that the consumer does not
begin before all producers are open (`Steps`).  The consumer gets what was sent, in the order in
which it was sent; behind that it gets the end, as often as it asks (`delivered_of_steps`).

An end in the queue does not tell whose it is, and updates of other producers may stand behind it.
Two facts make up for that (`Sound`).  The producers that the consumer counts are those that run
and those whose ends are in the queue; and while the last in the queue is an update, a producer
runs.  So once the count is zero, all producers have closed and the queue is empty.

* `Traffic`: a channel with its producers, what they sent, and what the consumer got.
* `Delivered`: what the consumer can rely on.
-/

namespace AxisMixer.Channel

/-! ### Producers and a consumer -/

inductive Producer where
  /-- It has not opened yet. -/
  | new (todo : List Update)
  /-- It is open and will send these. -/
  | running (todo : List Update)
  | closed

def Producer.isRunning : Producer → Bool
  | running _ => true
  | _ => false

/-- What a receive answers its caller, if it comes back at all. -/
def Reception.answer : Reception → List (Option Update)
  | update u => [some u]
  | finished => [none]
  | blocked => []

structure Traffic where
  channel : Channel
  producers : List Producer
  /-- All updates that were sent, by whichever producer. -/
  sent : List Update
  /-- What the receives answered. -/
  answers : List (Option Update)

namespace Traffic

/-- Before anything has happened. -/
def start (todos : List (List Update)) : Traffic := ⟨{}, todos.map .new, [], []⟩

/-- The updates received. -/
def heard (t : Traffic) : List Update := t.answers.reduceOption

def AllOpened (t : Traffic) : Prop := ∀ todo, .new todo ∉ t.producers

def AllClosed (t : Traffic) : Prop := ∀ p ∈ t.producers, p = .closed

def running (t : Traffic) : Nat := t.producers.countP Producer.isRunning

/-- The consumer receives. -/
def receive (t : Traffic) : Traffic :=
  { t with
    channel := t.channel.receive.2
    answers := t.answers ++ t.channel.receive.1.answer }

end Traffic

/-- Something happens.  A receive that blocks has no answer, and is taken up by another receive.
Since producers may act between two ends that it takes out, taking out one is a step of its own. -/
inductive Step : Traffic → Traffic → Prop
  | opens {c : Channel} {todo : List Update} {l r : List Producer} {sent : List Update}
      {answers : List (Option Update)} :
      Step ⟨c, l ++ .new todo :: r, sent, answers⟩
        ⟨c.openProducer, l ++ .running todo :: r, sent, answers⟩
  | sends {c : Channel} {u : Update} {todo : List Update} {l r : List Producer}
      {sent : List Update} {answers : List (Option Update)} :
      Step ⟨c, l ++ .running (u :: todo) :: r, sent, answers⟩
        ⟨c.send u, l ++ .running todo :: r, sent ++ [u], answers⟩
  | closes {c : Channel} {l r : List Producer} {sent : List Update}
      {answers : List (Option Update)} :
      Step ⟨c, l ++ .running [] :: r, sent, answers⟩
        ⟨c.closeProducer, l ++ .closed :: r, sent, answers⟩
  | meets {t : Traffic} {n : Nat} {queue : List Item} (ho : t.AllOpened)
      (h : t.channel = ⟨.finish :: queue, n + 1⟩) :
      Step t { t with channel := ⟨queue, n⟩ }
  | receives {t : Traffic} (ho : t.AllOpened) : Step t t.receive

/-- Any number of things happen. -/
inductive Steps : Traffic → Traffic → Prop
  | refl (t : Traffic) : Steps t t
  | more {t t₁ t' : Traffic} (h : Steps t t₁) (s : Step t₁ t') : Steps t t'

/-! ### What holds throughout -/

def Item.update? : Item → Option Update
  | update u => some u
  | finish => none

structure Sound (t : Traffic) : Prop where
  /-- Every update is received or on its way. -/
  sent : t.sent = t.heard ++ t.channel.queue.filterMap Item.update?
  /-- The consumer counts the producers whose ends are still to come. -/
  count : t.channel.producers = t.running + t.channel.queue.count .finish
  /-- An update without anything behind it has a producer that runs. -/
  last : ∀ u, t.channel.queue.getLast? = some (.update u) → 0 < t.running
  /-- Behind an end there are only ends. -/
  answers : t.answers.Pairwise fun a b => a = none → b = none
  /-- Once the consumer is told of the end, nothing is left. -/
  ended : none ∈ t.answers → t.AllClosed ∧ t.channel = ⟨[], 0⟩

namespace Traffic

theorem not_allClosed {c : Channel} {l r : List Producer} {p : Producer} {sent : List Update}
    {answers : List (Option Update)} (hp : p ≠ .closed) :
    ¬ AllClosed ⟨c, l ++ p :: r, sent, answers⟩ :=
  fun h => hp (h p (List.mem_append_right _ List.mem_cons_self))

theorem running_append (c : Channel) (l r : List Producer) (p : Producer) (sent : List Update)
    (answers : List (Option Update)) :
    running ⟨c, l ++ p :: r, sent, answers⟩ =
      l.countP Producer.isRunning + r.countP Producer.isRunning + p.isRunning.toNat := by
  rw [running, List.countP_append, List.countP_cons, Nat.add_assoc]
  cases p.isRunning <;> rfl

theorem AllClosed.running_eq {t : Traffic} (h : t.AllClosed) : t.running = 0 := by
  refine List.countP_eq_zero.mpr fun p hp => ?_
  rw [h p hp]
  exact Bool.false_ne_true

theorem allClosed_of_running_eq {t : Traffic} (ho : t.AllOpened) (h : t.running = 0) :
    t.AllClosed := by
  intro p hp
  cases p with
  | new todo => exact absurd hp (ho todo)
  | running todo => exact absurd rfl (List.countP_eq_zero.mp h _ hp)
  | closed => rfl

end Traffic

theorem sound_start (todos : List (List Update)) : Sound (.start todos) where
  sent := rfl
  count := by
    refine (List.countP_eq_zero.mpr fun p hp => ?_).symm
    obtain ⟨todo, -, rfl⟩ := List.mem_map.mp hp
    exact Bool.false_ne_true
  last u h := by cases h
  answers := .nil
  ended h := by cases h

section Producers

variable {c : Channel} {l r : List Producer} {todo : List Update} {sent : List Update}
  {answers : List (Option Update)}

theorem sound_opens (h : Sound ⟨c, l ++ .new todo :: r, sent, answers⟩) :
    Sound ⟨c.openProducer, l ++ .running todo :: r, sent, answers⟩ where
  sent := h.sent
  count := by
    have := h.count
    rw [Traffic.running_append] at this ⊢
    simp only [openProducer, Producer.isRunning, Bool.toNat_false, Bool.toNat_true] at this ⊢
    omega
  last u hu := by
    rw [Traffic.running_append]
    exact Nat.succ_pos _
  answers := h.answers
  ended hn := absurd (h.ended hn).1 (Traffic.not_allClosed nofun)

theorem sound_sends {u : Update} (h : Sound ⟨c, l ++ .running (u :: todo) :: r, sent, answers⟩) :
    Sound ⟨c.send u, l ++ .running todo :: r, sent ++ [u], answers⟩ where
  sent := by
    rw [send, List.filterMap_append, ← List.append_assoc]
    exact congrArg (· ++ [u]) h.sent
  count := by
    have := h.count
    rw [Traffic.running_append] at this ⊢
    rw [send, List.count_append]
    exact this
  last v hv := by
    rw [Traffic.running_append]
    exact Nat.succ_pos _
  answers := h.answers
  ended hn := absurd (h.ended hn).1 (Traffic.not_allClosed nofun)

theorem sound_closes (h : Sound ⟨c, l ++ .running [] :: r, sent, answers⟩) :
    Sound ⟨c.closeProducer, l ++ .closed :: r, sent, answers⟩ where
  sent := by
    rw [closeProducer, List.filterMap_append]
    exact h.sent.trans (congrArg (_ ++ ·) (List.append_nil _).symm)
  count := by
    have := h.count
    rw [Traffic.running_append] at this ⊢
    rw [closeProducer, List.count_append, List.count_singleton_self]
    simp only [Producer.isRunning, Bool.toNat_false, Bool.toNat_true] at this ⊢
    omega
  last u hu := by
    rw [closeProducer, List.getLast?_concat] at hu
    cases hu
  answers := h.answers
  ended hn := absurd (h.ended hn).1 (Traffic.not_allClosed nofun)

end Producers

section Consumer

variable {producers : List Producer} {sent : List Update} {answers : List (Option Update)}

/-- What stands last in a queue stands last in it with something before it. -/
theorem getLast?_cons_of_eq_some {i j : Item} {queue : List Item} (h : queue.getLast? = some j) :
    (i :: queue).getLast? = some j := by
  rw [List.getLast?_cons, h]
  rfl

theorem sound_meets {n : Nat} {queue : List Item}
    (h : Sound ⟨⟨.finish :: queue, n + 1⟩, producers, sent, answers⟩) :
    Sound ⟨⟨queue, n⟩, producers, sent, answers⟩ where
  sent := h.sent
  count := by
    have : n + 1 = _ + (Item.finish :: queue).count .finish := h.count
    rw [List.count_cons_self] at this
    exact Nat.succ.inj this
  last u hu := h.last u (getLast?_cons_of_eq_some hu)
  answers := h.answers
  ended hn := by cases (h.ended hn).2

/-- Where the consumer counts nobody, nothing is left. -/
theorem running_eq_zero_and_eq_nil {queue : List Item}
    (h : Sound ⟨⟨queue, 0⟩, producers, sent, answers⟩) :
    Traffic.running ⟨⟨queue, 0⟩, producers, sent, answers⟩ = 0 ∧ queue = [] := by
  obtain ⟨hrunning, hfinish⟩ := Nat.add_eq_zero_iff.mp h.count.symm
  refine ⟨hrunning, List.getLast?_eq_none_iff.mp ?_⟩
  cases hl : queue.getLast? with
  | none => rfl
  | some i =>
      cases i with
      | update u => exact absurd hrunning (Nat.ne_of_gt (h.last u hl))
      | finish => exact absurd (List.mem_of_getLast? hl) (List.count_eq_zero.mp hfinish)

theorem sound_receiveFrom (n : Nat) (queue : List Item)
    (ho : Traffic.AllOpened ⟨⟨queue, n⟩, producers, sent, answers⟩)
    (h : Sound ⟨⟨queue, n⟩, producers, sent, answers⟩) :
    Sound ⟨(receiveFrom n queue).2, producers, sent,
      answers ++ (receiveFrom n queue).1.answer⟩ := by
  -- each end that the receive takes out is the step `meets`; the last turn gives the answer
  fun_induction receiveFrom n queue with
  | case1 queue =>
      obtain ⟨hrunning, rfl⟩ := running_eq_zero_and_eq_nil h
      have hheard : (answers ++ [none]).reduceOption = answers.reduceOption :=
        (List.reduceOption_append _ _).trans (List.append_nil _)
      exact
        { sent := h.sent.trans (congrArg (· ++ []) hheard.symm)
          count := h.count
          last := h.last
          answers := List.pairwise_append.mpr
            ⟨h.answers, List.pairwise_singleton _ _, fun _ _ b hb _ => List.mem_singleton.mp hb⟩
          ended := fun _ => ⟨Traffic.allClosed_of_running_eq ho hrunning, rfl⟩ }
  | case2 n => rwa [Reception.answer, List.append_nil]
  | case3 n queue ih => exact ih ho (sound_meets h)
  | case4 n u queue =>
      have hheard : (answers ++ [some u]).reduceOption = answers.reduceOption ++ [u] :=
        List.reduceOption_append _ _
      -- an update is left, so the consumer was not told of the end
      have hn : none ∉ answers := fun hn => by cases (h.ended hn).2
      have hn' : none ∉ answers ++ [some u] := by simpa using hn
      exact
        { sent := by
            refine h.sent.trans ?_
            rw [Traffic.heard, Traffic.heard, Reception.answer, hheard, List.append_assoc]
            rfl
          count := h.count
          last := fun v hv => h.last v (getLast?_cons_of_eq_some hv)
          answers := List.pairwise_append.mpr
            ⟨h.answers, List.pairwise_singleton _ _, fun a ha _ _ e => absurd (e ▸ ha) hn⟩
          ended := fun h' => absurd h' hn' }

end Consumer

theorem Step.sound {t t' : Traffic} (s : Step t t') (h : Sound t) : Sound t' := by
  cases s with
  | opens => exact sound_opens h
  | sends => exact sound_sends h
  | closes => exact sound_closes h
  | meets ho hc =>
      obtain ⟨channel, producers, sent, answers⟩ := t
      obtain rfl := hc
      exact sound_meets h
  | receives ho => exact sound_receiveFrom _ _ ho h

theorem Steps.sound {t t' : Traffic} (hs : Steps t t') (h : Sound t) : Sound t' := by
  induction hs with
  | refl => exact h
  | more _ s ih => exact s.sound ih

/-! ### What the consumer gets -/

/-- The consumer is only kept waiting for producers whose ends are not in the queue. -/
theorem count_lt_of_blocked {n : Nat} {queue : List Item}
    (h : (receiveFrom n queue).1 = .blocked) : queue.count .finish < n := by
  fun_induction receiveFrom n queue with
  | case1 => cases h
  | case2 n => exact Nat.succ_pos n
  | case3 n queue ih =>
      rw [List.count_cons_self]
      exact Nat.succ_lt_succ (ih h)
  | case4 => cases h

/-- What the consumer can rely on. -/
structure Delivered (t : Traffic) : Prop where
  /-- Nothing is lost, doubled or overtaken. -/
  inOrder : t.heard <+: t.sent
  /-- Behind an end there are only ends. -/
  answers : t.answers.Pairwise fun a b => a = none → b = none
  /-- A consumer that was told of the end has been given everything, and will be told again. -/
  ended : none ∈ t.answers →
    t.AllClosed ∧ t.heard = t.sent ∧ t.channel.receive = (.finished, t.channel)
  /-- The end is told when everything has been given, and then only. -/
  finished : t.AllOpened →
    (t.channel.receive.1 = .finished ↔ t.AllClosed ∧ t.heard = t.sent)
  /-- Nobody waits for producers that have closed. -/
  flowing : t.AllClosed → t.channel.receive.1 ≠ .blocked

theorem Sound.inOrder {t : Traffic} (h : Sound t) : t.heard <+: t.sent := ⟨_, h.sent.symm⟩

theorem Sound.ended_heard {t : Traffic} (h : Sound t) (hn : none ∈ t.answers) :
    t.heard = t.sent := by
  rw [h.sent, (h.ended hn).2]
  exact (List.append_nil _).symm

theorem Sound.not_blocked {t : Traffic} (h : Sound t) (hc : t.AllClosed) :
    t.channel.receive.1 ≠ .blocked := by
  intro hb
  have hlt := count_lt_of_blocked hb
  rw [h.count, hc.running_eq, Nat.zero_add] at hlt
  exact Nat.lt_irrefl _ hlt

theorem Sound.finished_iff {t : Traffic} (h : Sound t) (ho : t.AllOpened) :
    t.channel.receive.1 = .finished ↔ t.AllClosed ∧ t.heard = t.sent := by
  have h' : Sound t.receive := (Step.receives ho).sound h
  have hheard : t.receive.heard = t.heard ++ t.channel.receive.1.answer.reduceOption :=
    List.reduceOption_append _ _
  constructor
  · intro hf
    rw [hf] at hheard
    have hn : none ∈ t.receive.answers := by
      rw [Traffic.receive, hf]
      exact List.mem_append_right _ List.mem_cons_self
    exact ⟨(h'.ended hn).1, (hheard.trans (List.append_nil _)).symm.trans (h'.ended_heard hn)⟩
  · rintro ⟨hc, heq⟩
    cases hr : t.channel.receive.1 with
    | finished => rfl
    | blocked => exact absurd hr (h.not_blocked hc)
    | update u =>
        -- it would be one more than was sent
        have hle : t.receive.heard.length ≤ t.sent.length := h'.inOrder.length_le
        rw [hheard, hr, heq, List.length_append] at hle
        exact absurd hle (Nat.not_succ_le_self _)

/-- **A channel delivers.**  Whatever the producers and the consumer have done, in whatever order,
the consumer was given the first of the updates sent.  It is told of the end when these are all and
every producer has closed, not before, and it waits for nobody who has closed. -/
theorem delivered_of_steps {todos : List (List Update)} {t : Traffic}
    (h : Steps (.start todos) t) : Delivered t :=
  have hs := h.sound (sound_start todos)
  { inOrder := hs.inOrder
    answers := hs.answers
    ended := fun hn => ⟨(hs.ended hn).1, hs.ended_heard hn, by rw [(hs.ended hn).2]; rfl⟩
    finished := hs.finished_iff
    flowing := hs.not_blocked }

def one : Update := ⟨⟨"A", .x⟩, 1⟩

def two : Update := ⟨⟨"B", .x⟩, 2⟩

/-- The second producer sends an update before the only one of the first and another one behind its
end.  The consumer waits once, and asks again after it is told of the end. -/
theorem delivered_of_steps_crossing :
    ∃ t, Steps (.start [[one], [two, one]]) t ∧
      t.answers = [some two, some one, some one, none, none] ∧ Delivered t := by
  have opened : Steps (.start [[one], [two, one]])
      ⟨⟨[], 2⟩, [.running [one], .running [two, one]], [], []⟩ :=
    .more (.more (.refl _) (.opens (l := []))) (.opens (l := [_]))
  have full : Steps (.start [[one], [two, one]])
      ⟨⟨[.update two, .update one, .finish, .update one], 2⟩, [.closed, .running []],
        [two, one, one], []⟩ :=
    .more (.more (.more (.more opened (.sends (l := [_]))) (.sends (l := []))) (.closes (l := [])))
      (.sends (l := [_]))
  have waiting : Steps (.start [[one], [two, one]])
      ⟨⟨[], 1⟩, [.closed, .running []], [two, one, one], [some two, some one, some one]⟩ :=
    have ho : ∀ todo, Producer.new todo ∉ [Producer.closed, .running []] := by simp
    .more (.more (.more (.more (.more full (.receives ho)) (.receives ho)) (.meets ho rfl))
      (.receives ho)) (.receives ho)
  have ended : Steps (.start [[one], [two, one]])
      ⟨⟨[], 0⟩, [.closed, .closed], [two, one, one], [some two, some one, some one, none, none]⟩ :=
    have ho : ∀ todo, Producer.new todo ∉ [Producer.closed, .closed] := by simp
    .more (.more (.more waiting (.closes (l := [_]))) (.receives ho)) (.receives ho)
  exact ⟨_, ended, rfl, delivered_of_steps ended⟩

end AxisMixer.Channel
