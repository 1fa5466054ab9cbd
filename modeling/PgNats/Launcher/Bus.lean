import PgNats.Launcher.Run
import PgNats.RingQueue.Runs

/-!
# The launcher and its senders around the bus

The model of `send_message_to_launcher`, `send_message_to_launcher_with_retry` and
`process_launcher_bus` in `src/bgw/launcher/mod.rs`, over the bytes of the bus. Any number of calls
of the two send functions run in any number of processes, and each of them takes the lock for one
`try_send` at a time. The launcher takes it for a whole drain, so a call sends only while no drain
is under way. The launcher decodes each buffer that it receives, and what it does with the message
is `Launcher.step`.

The bytes of a message are the business of the `postcard` crate, which is not part of the
repository. It is a parameter here (`Codec`), and the results ask of it only that it round-trips.

The list of accepted calls and the list of decoded messages are histories that the code does not
keep. After a panic no step is taken.
-/

namespace PgNats

open Rust (Panic Profile)

variable {CAPACITY : ℕ}

/-- What the bus uses of `postcard`, with the derived `Serialize` and `Deserialize` of
`LauncherMessage`. An error stands for its text. -/
structure Codec where
  /-- `postcard::to_stdvec`. -/
  toStdvec : LauncherMessage → Except String (List UInt8)
  /-- `postcard::from_bytes`. -/
  fromBytes : List UInt8 → Except String LauncherMessage

/-- The bytes of a message that is encoded are decoded to the message. -/
def Codec.RoundTrips (c : Codec) : Prop :=
  ∀ msg data, c.toStdvec msg = .ok data → c.fromBytes data = .ok msg

/-- `send_message_to_launcher`. -/
def sendMessageToLauncher (c : Codec) (p : Profile) (bus : RingQueue CAPACITY)
    (msg : LauncherMessage) : Except Panic (RingQueue CAPACITY × Except String Unit) :=
  match c.toStdvec msg with
  | .error error => return (bus, .error error)
  | .ok data => do
    let (bus, result) ← bus.trySend p data
    return (bus, result.mapError fun _ => "Failed to send to launcher message")

/-- A call of one of the send functions. -/
structure Sending where
  /-- The message. -/
  msg : LauncherMessage
  /-- The number of tries of `send_message_to_launcher_with_retry`, or `none` for a call of
  `send_message_to_launcher`. -/
  tries : Option ℕ
  /-- The passes of the loop that failed. -/
  n : ℕ
  /-- What the call returned. -/
  result : Option (Except String Unit)
  deriving DecidableEq

namespace Sending

/-- The error of `send_message_to_launcher_with_retry`. -/
def exhausted (tries : ℕ) : String :=
  "Failed to send launcher message after " ++ toString tries ++ " tries"

/-- A try is left for the next pass of a call. -/
def Attempts (call : Sending) : Prop := ∀ tries ∈ call.tries, call.n < tries

instance (call : Sending) : Decidable call.Attempts :=
  inferInstanceAs (Decidable (∀ tries ∈ call.tries, call.n < tries))

/-- The next pass of a call takes the lock for a `try_send`. -/
def Locks (c : Codec) (call : Sending) : Prop :=
  (c.toStdvec call.msg).isOk = true ∧ call.Attempts

instance (c : Codec) (call : Sending) : Decidable (call.Locks c) :=
  inferInstanceAs (Decidable (_ ∧ _))

/-- What a call does each time it is scheduled: the whole of `send_message_to_launcher`, or one pass
of the loop of `send_message_to_launcher_with_retry`, or its end. -/
def pass (c : Codec) (p : Profile) (bus : RingQueue CAPACITY) (call : Sending) :
    Except Panic (RingQueue CAPACITY × Sending) :=
  match call.tries with
  | none => do
    let (bus, result) ← sendMessageToLauncher c p bus call.msg
    return (bus, { call with result := some result })
  | some tries =>
    -- The source encodes the message once, before the loop.
    match c.toStdvec call.msg with
    | .error error => return (bus, { call with result := some (.error error) })
    | .ok data =>
      if call.n < tries then do
        -- The lock is given back after each try, and the call sleeps before the next one.
        match ← bus.trySend p data with
        | (bus, .ok ()) => return (bus, { call with result := some (.ok ()) })
        | (bus, .error ()) => return (bus, { call with n := call.n + 1 })
      else
        return (bus, { call with result := some (.error (exhausted tries)) })

end Sending

/-- The bus, the calls that send, and the launcher. -/
structure Exchange (CAPACITY : ℕ) where
  /-- The queue in shared memory. -/
  bus : RingQueue CAPACITY
  /-- The calls of the send functions so far, in the order in which they began. -/
  calls : List Sending
  /-- The launcher. -/
  launcher : Launcher
  /-- The calls whose message the bus accepted, with the message, in that order. -/
  accepted : List (ℕ × LauncherMessage)
  /-- The messages that the launcher decoded, in that order. -/
  handled : List LauncherMessage
  /-- Whether a process panicked at the bus. -/
  panicked : Bool

namespace Exchange

/-- Before the launcher's start, with nothing sent. -/
def init (oids : List Oid) : Exchange CAPACITY where
  bus := .new
  calls := []
  launcher := .init oids
  accepted := []
  handled := []
  panicked := false

/-- What happens. -/
inductive Event where
  /-- A process begins a call. -/
  | call (msg : LauncherMessage) (tries : Option ℕ)
  /-- The call passes. -/
  | pass (id : ℕ)
  /-- The launcher receives from the bus, with what a start for the message gives and whether a
  forward succeeds. -/
  | recv (started : Option String) (delivered : Bool)
  /-- The launcher does something else. -/
  | launcher (e : Launcher.Event)

/-- The launcher receives in its drain. -/
def drain (c : Codec) (p : Profile) (s : Exchange CAPACITY) (started : Option String)
    (delivered : Bool) : Option (Exchange CAPACITY) :=
  match s.bus.tryRecv p with
  | .error _ => some { s with panicked := true }
  | .ok (bus, none) => (s.launcher.step .empty).map fun launcher => { s with bus, launcher }
  | .ok (bus, some buf) =>
    -- A buffer that is not decoded is skipped.
    let msg := (c.fromBytes buf).toOption
    (s.launcher.step (.recv msg started delivered)).map fun launcher =>
      { s with bus, launcher, handled := s.handled ++ msg.toList }

/-- One step, if it is possible. -/
def step (c : Codec) (p : Profile) (s : Exchange CAPACITY) (e : Event) :
    Option (Exchange CAPACITY) :=
  if s.panicked then none else match e with
  | .call msg tries => some { s with calls := s.calls ++ [⟨msg, tries, 0, none⟩] }
  | .pass id =>
    match s.calls[id]? with
    | some call =>
      -- The launcher holds the lock through its drain.
      if (s.launcher.phase = .draining ∧ call.Locks c) ∨ call.result.isSome then none
      else match call.pass c p s.bus with
      | .error _ => some { s with panicked := true }
      | .ok (bus, call') => some { s with
        bus
        calls := s.calls.set id call'
        accepted := s.accepted ++ if call'.result = some (.ok ()) then [(id, call.msg)] else [] }
    | none => none
  | .recv started delivered => if s.launcher.phase = .draining then s.drain c p started delivered
    else none
  | .launcher e => match e with
    -- These two are what `recv` does.
    | .recv _ _ _ => none
    | .empty => none
    | e => (s.launcher.step e).map fun launcher => { s with launcher }

end Exchange

end PgNats
