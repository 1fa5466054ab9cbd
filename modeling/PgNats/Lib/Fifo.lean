import Mathlib.Data.List.Basic

/-!
# A bounded FIFO queue of messages

What a byte-bounded message queue is for, stated on the list of pending messages: a message is
appended when it fits beside the pending ones, and the oldest pending message is returned and
removed. A message costs a fixed overhead plus its length. `step` is one call, with the caller's
reply, and `run` is a sequence of calls with their replies.
-/

namespace PgNats.Fifo

/-- A call on a message queue. -/
inductive Op (α : Type) where
  /-- Append this message. -/
  | send (msg : List α)
  /-- Take the oldest message. -/
  | recv
  deriving DecidableEq, Repr

/-- The reply to a call. -/
inductive Reply (α : Type) where
  /-- Whether the message was appended. -/
  | sent (result : Except Unit Unit)
  /-- The oldest message, or `none` when nothing is pending. -/
  | received (msg : Option (List α))
  deriving DecidableEq

variable {α : Type} (overhead capacity : ℕ)

/-- The bytes that the pending messages take. -/
def cost : List (List α) → ℕ
  | [] => 0
  | m :: ms => overhead + m.length + cost ms

/-- The message fits beside the pending ones. -/
def Fits (pending : List (List α)) (msg : List α) : Prop :=
  cost overhead pending + (overhead + msg.length) ≤ capacity

instance (pending : List (List α)) (msg : List α) :
    Decidable (Fits overhead capacity pending msg) :=
  inferInstanceAs (Decidable (_ ≤ _))

/-- One call: the pending messages after it, and its reply. -/
def step (pending : List (List α)) : Op α → List (List α) × Reply α
  | .send msg =>
    if Fits overhead capacity pending msg then (pending ++ [msg], .sent (.ok ()))
    else (pending, .sent (.error ()))
  | .recv => (pending.tail, .received pending.head?)

/-- A sequence of calls: the pending messages at the end, and the replies. -/
def run : List (List α) → List (Op α) → List (List α) × List (Reply α)
  | pending, [] => (pending, [])
  | pending, op :: ops =>
    let (pending, reply) := step overhead capacity pending op
    let (pending, replies) := run pending ops
    (pending, reply :: replies)

variable {overhead capacity}

/-- Nothing pending costs nothing. -/
@[simp] theorem cost_nil : cost overhead ([] : List (List α)) = 0 := rfl

/-- The oldest message's cost and the others'. -/
@[simp] theorem cost_cons (m : List α) (ms : List (List α)) :
    cost overhead (m :: ms) = overhead + m.length + cost overhead ms := rfl

/-- A run from its first call on: its reply, then the run from the state after it. -/
theorem run_cons (pending : List (List α)) (op : Op α) (ops : List (Op α)) :
    run overhead capacity pending (op :: ops)
      = ((run overhead capacity (step overhead capacity pending op).1 ops).1,
        (step overhead capacity pending op).2 ::
          (run overhead capacity (step overhead capacity pending op).1 ops).2) := rfl

end PgNats.Fifo
