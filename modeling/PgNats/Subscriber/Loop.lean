import PgNats.Lib.Run
import PgNats.Messages
import PgNats.Subscriber.Context

/-!
# The subscriber's main loop

The model of `background_worker_subscriber_main_internal` in `src/bgw/subscriber/mod.rs`, from the
start of the connection on, as a step function on the states of the process between two calls. A
pass of the loop wakes up, checks the extension and the role, handles the messages of the shared
memory queue, and then those of the internal channel. Between any two steps, the launcher may write
to the queue and the handler tasks may write to the channel. An aborted task stops at its next
`await` only, so that it may still write.

A process that ended, in whatever phase, may be followed by a new one, which starts with an empty
map and an empty channel over the same database (`Event.restart`).
-/

namespace PgNats

/-- `handle_message_from_shared_queue`, where `connected` says whether a connection that it makes
succeeds. -/
def handleMessageFromSharedQueue (ctx : SubscriberContext) (connected : Bool) :
    SubscriberMessage → SubscriberContext
  | .newConfig config => (ctx.applyConfig config connected).1
  | .subscribe subject fn_name =>
    { ctx with sender := ctx.sender ++ [.subscribe true subject fn_name] }
  | .unsubscribe subject fn_name =>
    { ctx with sender := ctx.sender ++ [.unsubscribe subject fn_name] }

/-- `handle_internal_message`. A statement on the table that fails is only logged. -/
def handleInternalMessage (ctx : SubscriberContext) (db : Database)
    (outcome : String → Except CallError Unit) :
    InternalWorkerMessage → SubscriberContext × Database
  | .subscribe register subject fn_name =>
    let db := if register then (insertSubjectCallback db subject fn_name).1 else db
    (ctx.handleSubscribe subject fn_name, db)
  | .unsubscribe subject fn_name =>
    let db := (deleteSubjectCallback db subject fn_name).1
    (ctx.handleUnsubscribe subject fn_name, db)
  | .callbackCall subject data => ctx.handleCallback db subject data (callFunction outcome)
  | .unsubscribeSubject subject _ => (ctx.handleUnsubscribeSubject subject, db)

/-- Handling a message leaves the others in the channel. -/
theorem handleInternalMessage_sender (ctx : SubscriberContext) (db : Database)
    (outcome : String → Except CallError Unit) (msg : InternalWorkerMessage) :
    (handleInternalMessage ctx db outcome msg).1.sender = ctx.sender := by
  cases msg <;> rfl

/-- A request for a pair of subject and function. -/
structure Request where
  /-- Whether it is `Subscribe` rather than `Unsubscribe`. -/
  subscribe : Bool
  /-- The subject and the function. -/
  pair : String × String
  deriving DecidableEq, Repr

/-- The request that a message of the internal channel carries. What `restore_state` queues is not
a request. -/
def InternalWorkerMessage.request? : InternalWorkerMessage → Option Request
  | .subscribe true subject fn_name => some ⟨true, (subject, fn_name)⟩
  | .unsubscribe subject fn_name => some ⟨false, (subject, fn_name)⟩
  | _ => none

/-- Where the process stands. -/
inductive Phase where
  /-- In `wait_latch`. -/
  | waiting
  /-- In the loop over the shared memory queue. -/
  | shared
  /-- In the loop over the internal channel. -/
  | internal
  /-- Returned from the loop. -/
  | exited (result : Except String Unit)
  deriving DecidableEq

/-- A subscriber process and its database. -/
structure Subscriber where
  /-- Where the process stands. -/
  phase : Phase
  /-- The messages in the shared memory queue. -/
  recv : List SubscriberMessage
  /-- The context. -/
  ctx : SubscriberContext
  /-- The database. -/
  db : Database
  /-- The requests handled so far by this process and those before it, the newest first. -/
  handled : List Request
  deriving DecidableEq

namespace Subscriber

/-- A new process, up to its loop: it connects, notifies, and on a master restores the state. -/
def start (db : Database) (handled : List Request) (config : Config) (env : Env) : Subscriber :=
  let (nats, rt) := NatsConnectionState.new Runtime.new config.nats_opt
  let ctx := SubscriberContext.new rt [] nats config env
  -- A notification or a restore that fails is only logged.
  let ctx := (ctx.sendNotification env).1
  let ctx := if ctx.isMaster then (ctx.restoreState db env).1 else ctx
  { phase := .waiting, recv := [], ctx, db, handled }

/-- What can happen to a subscriber. -/
inductive Event where
  /-- The launcher's message is in the queue. -/
  | deliver (msg : SubscriberMessage)
  /-- A handler task got a message of its subject, or failed to subscribe. -/
  | report (handler : ℕ) (result : Except String (List UInt8))
  /-- The latch wakes the loop, which checks the extension and the role. -/
  | wake (status : ExtensionStatus) (env : Env)
  /-- The next message of the queue is handled. -/
  | sharedRecv (connected : Bool)
  /-- The queue is found empty. -/
  | sharedEmpty
  /-- The launcher has detached from the queue. -/
  | sharedDetached
  /-- The next message of the channel is handled. -/
  | internalRecv (outcome : String → Except CallError Unit)
  /-- The channel is found empty, which ends the pass. -/
  | internalEmpty
  /-- `SIGTERM`. -/
  | terminate
  /-- The process has ended, and a new one has started. -/
  | restart (config : Config) (env : Env)

/-- The message that a handler task sends. -/
def reported (task : Task) : Except String (List UInt8) → InternalWorkerMessage
  | .ok data => .callbackCall task.subject data
  | .error reason => .unsubscribeSubject task.subject reason

/-- One message of the internal channel. A replica drops it. -/
def internal (s : Subscriber) (outcome : String → Except CallError Unit)
    (msg : InternalWorkerMessage) (rest : List InternalWorkerMessage) : Subscriber :=
  let ctx := { s.ctx with sender := rest }
  -- A replica takes the message off the channel and forgets it.
  if ctx.isReplica then { s with ctx }
  else
    let (ctx, db) := handleInternalMessage ctx s.db outcome msg
    { s with ctx, db, handled := msg.request?.toList ++ s.handled }

/-- One step, if it is possible. -/
def step (s : Subscriber) : Event → Option Subscriber
  | .deliver msg => match s.phase with
    | .exited _ => none
    | _ => some { s with recv := s.recv ++ [msg] }
  | .report handler result => match s.phase, s.ctx.rt.tasks[handler]? with
    | .exited _, _ => none
    | _, none => none
    | _, some task =>
      some { s with ctx := { s.ctx with sender := s.ctx.sender ++ [reported task result] } }
  | .wake status env => match s.phase, status with
    | .waiting, .noExtension => some { s with
        phase := .exited (.error s!"Extension '{EXTENSION_NAME}' was dropped") }
    | .waiting, .noForeignServer => some { s with
        phase := .exited (.error s!"Foreign server for '{FDW_EXTENSION_NAME}' was dropped") }
    | .waiting, .exist => some { s with
        phase := .shared, ctx := (s.ctx.checkMigration s.db env).1 }
    | _, _ => none
  | .sharedRecv connected => match s.phase, s.recv with
    | .shared, msg :: recv => some { s with
        recv, ctx := handleMessageFromSharedQueue s.ctx connected msg }
    | _, _ => none
  | .sharedEmpty => match s.phase, s.recv with
    -- The check and the two loops belong to one pass, so the channel is read only after the queue.
    | .shared, [] => some { s with phase := .internal }
    | _, _ => none
  | .sharedDetached => match s.phase with
    | .shared => some { s with phase := .exited (.ok ()) }
    | _ => none
  | .internalRecv outcome => match s.phase, s.ctx.sender with
    | .internal, msg :: rest => some (s.internal outcome msg rest)
    | _, _ => none
  | .internalEmpty => match s.phase, s.ctx.sender with
    | .internal, [] => some { s with phase := .waiting }
    | _, _ => none
  | .terminate => match s.phase with
    | .waiting => some { s with phase := .exited (.ok ()) }
    | _ => none
  | .restart config env => some (start s.db s.handled config env)

/-- What a step from `s` can do, one constructor for each way it goes. -/
inductive Transition (s : Subscriber) : Event → Subscriber → Prop where
  /-- A message arrives in the queue. -/
  | deliver (msg : SubscriberMessage) (hlive : ∀ result, s.phase ≠ .exited result) :
    Transition s (.deliver msg) { s with recv := s.recv ++ [msg] }
  /-- A task's message arrives in the channel. -/
  | report {handler : ℕ} {task : Task} {result : Except String (List UInt8)}
    (hlive : ∀ result, s.phase ≠ .exited result)
    (htask : s.ctx.rt.tasks[handler]? = some task) :
    Transition s (.report handler result)
      { s with ctx := { s.ctx with sender := s.ctx.sender ++ [reported task result] } }
  /-- The pass begins. -/
  | wake {env : Env} (hphase : s.phase = .waiting) :
    Transition s (.wake .exist env)
      { s with phase := .shared, ctx := (s.ctx.checkMigration s.db env).1 }
  /-- A message of the queue is handled. -/
  | sharedRecv {connected : Bool} {msg : SubscriberMessage} {recv : List SubscriberMessage}
    (hphase : s.phase = .shared) (hrecv : s.recv = msg :: recv) :
    Transition s (.sharedRecv connected)
      { s with recv, ctx := handleMessageFromSharedQueue s.ctx connected msg }
  /-- The queue is empty. -/
  | sharedEmpty (hphase : s.phase = .shared) :
    Transition s .sharedEmpty { s with phase := .internal }
  /-- A message of the channel is handled. -/
  | internalRecv {outcome : String → Except CallError Unit} {msg : InternalWorkerMessage}
    {rest : List InternalWorkerMessage} (hphase : s.phase = .internal)
    (hsender : s.ctx.sender = msg :: rest) :
    Transition s (.internalRecv outcome) (s.internal outcome msg rest)
  /-- The channel is empty, and the pass ends. -/
  | internalEmpty (hphase : s.phase = .internal) (hsender : s.ctx.sender = []) :
    Transition s .internalEmpty { s with phase := .waiting }
  /-- The loop ends: the extension or the server is gone, the launcher is, or it was told to. -/
  | exit {e : Event} (result : Except String Unit)
    (hcause : (∃ status env, e = .wake status env ∧ status ≠ .exist) ∨ e = .sharedDetached ∨
      e = .terminate) :
    Transition s e { s with phase := .exited result }
  /-- A new process takes over. -/
  | restart (config : Config) (env : Env) :
    Transition s (.restart config env) (start s.db s.handled config env)

/-- Every step is one of the transitions. -/
theorem transition_of_step {s s' : Subscriber} {e : Event} (h : step s e = some s') :
    Transition s e s' := by
  unfold step at h
  cases e with
  | deliver msg =>
    dsimp only at h
    split at h
    · exact absurd h (by simp)
    · next hlive => exact Option.some.inj h ▸ .deliver msg hlive
  | report handler result =>
    dsimp only at h
    split at h
    · exact absurd h (by simp)
    · exact absurd h (by simp)
    · next htask hlive => exact Option.some.inj h ▸ .report hlive htask
  | wake status env =>
    dsimp only at h
    split at h
    · exact Option.some.inj h ▸ .exit _ (Or.inl ⟨_, env, rfl, by simp⟩)
    · exact Option.some.inj h ▸ .exit _ (Or.inl ⟨_, env, rfl, by simp⟩)
    · next hphase => exact Option.some.inj h ▸ .wake hphase
    · exact absurd h (by simp)
  | sharedRecv connected =>
    dsimp only at h
    split at h
    · next hphase hrecv => exact Option.some.inj h ▸ .sharedRecv hphase hrecv
    · exact absurd h (by simp)
  | sharedEmpty =>
    dsimp only at h
    split at h
    · next hphase _ => exact Option.some.inj h ▸ .sharedEmpty hphase
    · exact absurd h (by simp)
  | sharedDetached =>
    dsimp only at h
    split at h
    · exact Option.some.inj h ▸ .exit _ (Or.inr (Or.inl rfl))
    · exact absurd h (by simp)
  | internalRecv outcome =>
    dsimp only at h
    split at h
    · next hphase hsender => exact Option.some.inj h ▸ .internalRecv hphase hsender
    · exact absurd h (by simp)
  | internalEmpty =>
    dsimp only at h
    split at h
    · next hphase hsender => exact Option.some.inj h ▸ .internalEmpty hphase hsender
    · exact absurd h (by simp)
  | terminate =>
    dsimp only at h
    split at h
    · exact Option.some.inj h ▸ .exit _ (Or.inr (Or.inr rfl))
    · exact absurd h (by simp)
  | restart config env => exact Option.some.inj h ▸ .restart config env

/-- In the loop over the channel, its first message can be handled. -/
theorem step_internalRecv {s : Subscriber} {msg : InternalWorkerMessage}
    {rest : List InternalWorkerMessage} (hphase : s.phase = .internal)
    (hsender : s.ctx.sender = msg :: rest) (outcome : String → Except CallError Unit) :
    s.step (.internalRecv outcome) = some (s.internal outcome msg rest) := by
  unfold step
  dsimp only
  rw [hphase, hsender]

/-- A message of the channel does not change where the process stands. -/
theorem internal_phase (s : Subscriber) (outcome : String → Except CallError Unit)
    (msg : InternalWorkerMessage) (rest : List InternalWorkerMessage) :
    (s.internal outcome msg rest).phase = s.phase := by
  unfold internal
  dsimp only
  split_ifs <;> rfl

/-- A replica drops the message. -/
theorem internal_of_replica {s : Subscriber} (hreplica : s.ctx.status = .replica)
    (outcome : String → Except CallError Unit) (msg : InternalWorkerMessage)
    (rest : List InternalWorkerMessage) :
    s.internal outcome msg rest = { s with ctx := { s.ctx with sender := rest } } := by
  unfold internal
  exact if_pos (beq_iff_eq.mpr hreplica)

/-- A master handles the message. -/
theorem internal_of_master {s : Subscriber} (hmaster : s.ctx.status = .master)
    (outcome : String → Except CallError Unit) (msg : InternalWorkerMessage)
    (rest : List InternalWorkerMessage) :
    s.internal outcome msg rest =
      { s with
        ctx := (handleInternalMessage { s.ctx with sender := rest } s.db outcome msg).1
        db := (handleInternalMessage { s.ctx with sender := rest } s.db outcome msg).2
        handled := msg.request?.toList ++ s.handled } := by
  unfold internal
  refine if_neg fun hreplica => ?_
  exact absurd (hmaster.symm.trans (beq_iff_eq.mp hreplica)) (by simp)

/-- What a new process is. A notification that fails has no effect, and rows that cannot be read are
not restored. -/
theorem start_eq (db : Database) (handled : List Request) (config : Config) (env : Env) :
    ∃ published, start db handled config env =
      { phase := .waiting
        recv := []
        ctx := .new { (NatsConnectionState.new Runtime.new config.nats_opt).2 with published }
          (if env.role = .master ∧ env.selected = true then
            db.subscriptions.map fun row => InternalWorkerMessage.subscribe false row.1 row.2
            else [])
          (NatsConnectionState.new Runtime.new config.nats_opt).1 config env
        db
        handled } := by
  obtain ⟨published, hctx⟩ := SubscriberContext.sendNotification_frame
    (SubscriberContext.new (NatsConnectionState.new Runtime.new config.nats_opt).2 []
      (NatsConnectionState.new Runtime.new config.nats_opt).1 config env) env
  refine ⟨published, ?_⟩
  unfold start
  dsimp only
  rw [hctx]
  split_ifs with hmaster hrestored hrestored
  · unfold SubscriberContext.restoreState fetchSubjectWithCallbacks
    rw [if_pos hrestored.2]
    rfl
  · have hrole : env.role = .master := beq_iff_eq.mp hmaster
    unfold SubscriberContext.restoreState fetchSubjectWithCallbacks
    rw [if_neg fun hselected => hrestored ⟨hrole, hselected⟩]
    rfl
  · exact absurd (beq_iff_eq.mpr hrestored.1) hmaster
  · rfl

/-- A new process starts with an empty queue, in `wait_latch`, and with its configuration. -/
theorem start_frame (db : Database) (handled : List Request) (config : Config) (env : Env) :
    (start db handled config env).recv = [] ∧
      (start db handled config env).ctx.config = config := by
  obtain ⟨published, hstart⟩ := start_eq db handled config env
  rw [hstart]
  exact ⟨rfl, rfl⟩

/-- A new process has restored rows in its channel, and nothing else. -/
theorem restores_start (db : Database) (handled : List Request) (config : Config) (env : Env) :
    Restores db [] (start db handled config env).ctx.sender := by
  obtain ⟨published, hstart⟩ := start_eq db handled config env
  rw [hstart]
  unfold SubscriberContext.new
  dsimp only
  split_ifs
  · exact ⟨db.subscriptions, fun _ h => h, rfl⟩
  · exact Restores.none db []

/-- A new process has an empty map and the role of the instance, and on a replica an empty
channel. -/
theorem start_role (db : Database) (handled : List Request) (config : Config) (env : Env) :
    (start db handled config env).ctx.nats.subscriptions = ∅ ∧
      (start db handled config env).ctx.status = env.role ∧
      (env.role = .replica → (start db handled config env).ctx.sender = []) := by
  obtain ⟨published, hstart⟩ := start_eq db handled config env
  rw [hstart]
  refine ⟨rfl, rfl, fun hreplica => if_neg ?_⟩
  rintro ⟨hmaster, -⟩
  exact absurd (hreplica.symm.trans hmaster) (by simp)

/-- A step of the process itself leaves its queue and its configuration as they are, or takes the
oldest message off the queue, whose configuration is in use afterwards if the connection that it
needs succeeds. -/
theorem config_of_step {s s' : Subscriber} {e : Event} (h : Transition s e s')
    (hdeliver : ∀ msg, e ≠ .deliver msg) (hrestart : ∀ config env, e ≠ .restart config env) :
    (s'.recv = s.recv ∧ s'.ctx.config = s.ctx.config) ∨
      ∃ connected msg, e = .sharedRecv connected ∧ s.recv = msg :: s'.recv ∧
        (connected = true → s'.ctx.config = msg.config?.getD s.ctx.config) := by
  cases h with
  | deliver msg hlive => exact absurd rfl (hdeliver msg)
  | report hlive htask => exact Or.inl ⟨rfl, rfl⟩
  | wake hphase => exact Or.inl ⟨rfl, SubscriberContext.checkMigration_config _ _ _⟩
  | @sharedRecv connected msg recv hphase hrecv =>
    -- A connection that fails leaves the old configuration, and the loop has no second try.
    refine Or.inr ⟨connected, msg, rfl, hrecv, ?_⟩
    rintro rfl
    cases msg with
    | newConfig config => exact SubscriberContext.applyConfig_config _ _
    | subscribe subject fn_name => rfl
    | unsubscribe subject fn_name => rfl
  | sharedEmpty hphase => exact Or.inl ⟨rfl, rfl⟩
  | @internalRecv outcome msg rest hphase hsender =>
    left
    unfold internal
    dsimp only
    split_ifs with hreplica
    · exact ⟨rfl, rfl⟩
    · cases msg <;> exact ⟨rfl, rfl⟩
  | internalEmpty hphase hsender => exact Or.inl ⟨rfl, rfl⟩
  | exit result hcause => exact Or.inl ⟨rfl, rfl⟩
  | restart config env => exact absurd rfl (hrestart config env)

end Subscriber

end PgNats
