import AxisMixer.Axis

/-!
# The channel — one queue for the updates of many devices

Producers send updates into the queue and say when they have come to their end, which is a mark in
the queue like an update.  The consumer counts the marks: when it has met one for every producer,
the channel has come to its end.

* `Channel.receive`: what the consumer gets.
* `Channel.drain`: everything that the consumer gets until there is nothing more.
-/

namespace AxisMixer

inductive Channel.Item where
  | update (u : Update)
  /-- A producer has come to its end. -/
  | finish
  deriving DecidableEq, Repr

structure Channel where
  /-- What was put in and not taken out, the oldest first. -/
  queue : List Channel.Item := []
  /-- The producers whose ends the consumer has not met. -/
  producers : Nat := 0
  deriving DecidableEq, Repr

namespace Channel

/-! ### Producers -/

def openProducer (c : Channel) : Channel := { c with producers := c.producers + 1 }

def send (c : Channel) (u : Update) : Channel := { c with queue := c.queue ++ [.update u] }

def closeProducer (c : Channel) : Channel := { c with queue := c.queue ++ [.finish] }

/-- The number of updates and ends that wait in the queue. -/
def pending (c : Channel) : Nat := c.queue.length

/-! ### The consumer -/

inductive Reception where
  | update (u : Update)
  /-- All producers have come to their ends. -/
  | finished
  /-- The queue is empty and a producer may still put something in. -/
  | blocked
  deriving DecidableEq, Repr

/-- Takes out ends up to the first update. -/
def receiveFrom : (producers : Nat) → List Item → Reception × Channel
  | 0, queue => (.finished, ⟨queue, 0⟩)
  | n + 1, [] => (.blocked, ⟨[], n + 1⟩)
  | n + 1, .finish :: queue => receiveFrom n queue
  | n + 1, .update u :: queue => (.update u, ⟨queue, n + 1⟩)

/-- What the consumer gets next. -/
def receive (c : Channel) : Reception × Channel := receiveFrom c.producers c.queue

theorem length_receiveFrom_lt {n : Nat} {queue : List Item} {u : Update}
    (h : (receiveFrom n queue).1 = .update u) :
    (receiveFrom n queue).2.queue.length < queue.length := by
  fun_induction receiveFrom n queue with
  | case1 => simp at h
  | case2 => simp at h
  | case3 n queue ih => exact Nat.lt_succ_of_lt (ih h)
  | case4 => simp

/-- The updates that the consumer gets, whether the channel came to its end then, and the channel
as it is afterwards. -/
def drain (c : Channel) : List Update × Bool × Channel :=
  match _h : c.receive with
  | (.finished, c') => ([], true, c')
  | (.blocked, c') => ([], false, c')
  | (.update u, c') =>
    let rest := drain c'
    (u :: rest.1, rest.2)
termination_by c.queue.length
decreasing_by
  have hu : (receiveFrom c.producers c.queue).1 = .update u := congrArg Prod.fst _h
  have hc : (receiveFrom c.producers c.queue).2 = c' := congrArg Prod.snd _h
  exact hc ▸ length_receiveFrom_lt hu

end Channel

end AxisMixer
