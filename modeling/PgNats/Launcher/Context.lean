import PgNats.Lib.Collections
import PgNats.Messages

/-!
# The launcher's context

The model of `src/bgw/launcher/context.rs` and of the match in `process_launcher_bus`. An entry
stands for the worker process that it started and for the sending end of its queue, and both are
known by the number of the start, which is the counter at that time. Starting a process, sending it
`SIGTERM`, and writing to its queue are effects outside the context. A handler has at most one, and
it is the last thing that the handler does, so `handle` returns it. What a handler returns besides
is only logged.

`handling_of_handle` lists what handling a message can do. All of it is in the maps at the message's
database, and every later result about the launcher goes through it.
-/

namespace PgNats

/-- `WorkerEntry`, running or terminated. -/
structure WorkerEntry where
  /-- The name of the database. -/
  db_name : String
  /-- The database. -/
  oid : Oid
  /-- The number of the start: the process and the queue. -/
  worker : ℕ
  deriving DecidableEq, Repr

/-- `LauncherContext`. -/
structure LauncherContext where
  /-- The workers that have not reported yet. -/
  pending_workers : HashMap Oid WorkerEntry
  /-- The registered workers. -/
  workers : HashMap Oid WorkerEntry
  /-- The workers that were terminated and not waited for yet. -/
  terminated_workers : HashMap Oid WorkerEntry
  /-- How many workers have been started. -/
  counter : ℕ
  deriving DecidableEq

/-- What a handler does outside the context. -/
inductive Effect where
  /-- `WorkerEntry::start`: a new worker process. -/
  | start (entry : WorkerEntry)
  /-- `WorkerEntry::terminate`: `SIGTERM` to the worker. -/
  | terminate (entry : WorkerEntry)
  /-- `ShmMqSender::send`: the message goes to the worker's queue. -/
  | send (entry : WorkerEntry) (msg : SubscriberMessage)
  deriving DecidableEq

namespace LauncherContext

/-- `LauncherContext::default`. -/
def default : LauncherContext where
  pending_workers := ∅
  workers := ∅
  terminated_workers := ∅
  counter := 0

/-- `LauncherContext::process_terminated_workers`, after the wait for each of them. -/
def processTerminatedWorkers (ctx : LauncherContext) : LauncherContext :=
  { ctx with terminated_workers := ∅ }

/-- `LauncherContext::register_worker`. -/
def registerWorker (ctx : LauncherContext) (db_oid : Oid) : LauncherContext :=
  match ctx.pending_workers.lookup db_oid with
  | some worker => { ctx with
      pending_workers := ctx.pending_workers.erase db_oid
      workers := ctx.workers.insert db_oid worker }
  -- A second report, or one of a worker already shut down.
  | none => ctx

/-- `LauncherContext::start_subscribe_worker`, where `started` is the name of the database, or
`none` when the start fails. -/
def startSubscribeWorker (ctx : LauncherContext) (oid : Oid) (started : Option String) :
    LauncherContext × Option Effect :=
  match started with
  | some db_name =>
    let entry := { db_name, oid, worker := ctx.counter }
    -- A pending entry that is there already is dropped with its handle.
    ({ ctx with
        counter := ctx.counter + 1
        pending_workers := ctx.pending_workers.insert oid entry }, some (.start entry))
  | none => (ctx, none)

/-- `LauncherContext::handle_new_config_message`. A new worker does not get the configuration: it
reads its own. -/
def handleNewConfigMessage (ctx : LauncherContext) (db_oid : Oid) (config : Config)
    (started : Option String) : LauncherContext × Option Effect :=
  match ctx.workers.lookup db_oid with
  | some entry => (ctx, some (.send entry (.newConfig config)))
  | none =>
    -- The configuration is dropped either way: a pending worker gets none, a new one reads its own.
    match ctx.pending_workers.lookup db_oid with
    | none => ctx.startSubscribeWorker db_oid started
    | some _ => (ctx, none)

/-- `LauncherContext::handle_subscribe_message`. It looks at the registered workers only. -/
def handleSubscribeMessage (ctx : LauncherContext) (db_oid : Oid) (subject fn_name : String) :
    LauncherContext × Option Effect :=
  match ctx.workers.lookup db_oid with
  | some entry => (ctx, some (.send entry (.subscribe subject fn_name)))
  | none => (ctx, none)

/-- `LauncherContext::handle_unsubscribe_message`. -/
def handleUnsubscribeMessage (ctx : LauncherContext) (db_oid : Oid) (subject fn_name : String) :
    LauncherContext × Option Effect :=
  match ctx.workers.lookup db_oid with
  | some entry => (ctx, some (.send entry (.unsubscribe subject fn_name)))
  | none => (ctx, none)

/-- `LauncherContext::shutdown_worker_entry`. -/
def shutdownWorkerEntry (ctx : LauncherContext) (entry : WorkerEntry) :
    LauncherContext × Option Effect :=
  ({ ctx with terminated_workers := ctx.terminated_workers.insert entry.oid entry },
    some (.terminate entry))

/-- `LauncherContext::shutdown_worker`. -/
def shutdownWorker (ctx : LauncherContext) (db_oid : Oid) : LauncherContext × Option Effect :=
  match ctx.workers.lookup db_oid with
  -- The registered worker comes first, and a pending one is then left alone.
  | some entry => shutdownWorkerEntry { ctx with workers := ctx.workers.erase db_oid } entry
  | none =>
    match ctx.pending_workers.lookup db_oid with
    | some entry =>
      shutdownWorkerEntry { ctx with pending_workers := ctx.pending_workers.erase db_oid } entry
    | none => (ctx, none)

/-- A loop of `LauncherContext::shutdown_all_workers`, over the entries taken out of a map. -/
def shutdownEntries (ctx : LauncherContext) : List WorkerEntry → LauncherContext × List Effect
  | [] => (ctx, [])
  | entry :: entries =>
    let (ctx, effect) := ctx.shutdownWorkerEntry entry
    let (ctx, effects) := shutdownEntries ctx entries
    (ctx, effect.toList ++ effects)

/-- `LauncherContext::shutdown_all_workers`: the registered workers, then the pending ones. -/
def shutdownAllWorkers (ctx : LauncherContext) : LauncherContext × List Effect :=
  let (ctx, effects) := shutdownEntries { ctx with workers := ∅ } ctx.workers.values
  let (ctx, effects') :=
    shutdownEntries { ctx with pending_workers := ∅ } ctx.pending_workers.values
  (ctx, effects ++ effects')

/-- `LauncherContext::handle_subscriber_exit_message`. -/
def handleSubscriberExitMessage (ctx : LauncherContext) (db_oid : Oid) :
    LauncherContext × Option Effect :=
  ctx.shutdownWorker db_oid

/-- `LauncherContext::handle_foreign_server_dropped`. -/
def handleForeignServerDropped (ctx : LauncherContext) (db_oid : Oid) :
    LauncherContext × Option Effect :=
  ctx.shutdownWorker db_oid

/-- The body of the loop in `process_launcher_bus`: one message. -/
def handle (ctx : LauncherContext) (started : Option String) :
    LauncherMessage → LauncherContext × Option Effect
  | .dbExtensionStatus db_oid .exist => (ctx.registerWorker db_oid, none)
  | .dbExtensionStatus db_oid .noExtension => ctx.shutdownWorker db_oid
  | .dbExtensionStatus db_oid .noForeignServer => ctx.shutdownWorker db_oid
  | .newConfig db_oid config => ctx.handleNewConfigMessage db_oid config started
  | .subscribe db_oid subject fn_name => ctx.handleSubscribeMessage db_oid subject fn_name
  | .unsubscribe db_oid subject fn_name => ctx.handleUnsubscribeMessage db_oid subject fn_name
  | .subscriberExit db_oid _ => ctx.handleSubscriberExitMessage db_oid
  | .foreignServerDropped db_oid => ctx.handleForeignServerDropped db_oid

/-- `add_subscribe_workers`, where `started` gives the outcome of each start. -/
def addSubscribeWorkers (started : Oid → Option String) (ctx : LauncherContext) (oids : List Oid) :
    LauncherContext :=
  oids.foldl (fun ctx oid => (ctx.startSubscribeWorker oid (started oid)).1) ctx

/-- The entry of a database, pending or registered, in the order in which a shutdown looks. -/
def entry? (ctx : LauncherContext) (db_oid : Oid) : Option WorkerEntry :=
  match ctx.workers.lookup db_oid with
  | some entry => some entry
  | none => ctx.pending_workers.lookup db_oid

end LauncherContext

/-- The messages that shut the entry of their database down. -/
def LauncherMessage.ShutsDown : LauncherMessage → Prop
  | .dbExtensionStatus _ status => status ≠ .exist
  | .subscriberExit _ _ => True
  | .foreignServerDropped _ => True
  | _ => False

instance : ∀ msg : LauncherMessage, Decidable msg.ShutsDown
  | .dbExtensionStatus _ status => inferInstanceAs (Decidable (status ≠ .exist))
  | .newConfig _ _ => .isFalse id
  | .subscribe _ _ _ => .isFalse id
  | .unsubscribe _ _ _ => .isFalse id
  | .subscriberExit _ _ => .isTrue trivial
  | .foreignServerDropped _ => .isTrue trivial

/-- What is forwarded of a message when a worker is registered. -/
def LauncherMessage.forward? : LauncherMessage → Option SubscriberMessage
  | .newConfig _ config => some (.newConfig config)
  | .subscribe _ subject fn_name => some (.subscribe subject fn_name)
  | .unsubscribe _ subject fn_name => some (.unsubscribe subject fn_name)
  | _ => none

/-- A message that shuts a worker down is not one to forward. -/
theorem LauncherMessage.ShutsDown.forward?_eq_none {msg : LauncherMessage} (h : msg.ShutsDown) :
    msg.forward? = none := by
  cases msg with
  | dbExtensionStatus d status => rfl
  | subscriberExit d reason => rfl
  | foreignServerDropped d => rfl
  | _ => exact h.elim

/-- What handling a message can do to the context, and its effect. `started` is what a start would
give. -/
inductive Handling (ctx : LauncherContext) (started : Option String) :
    LauncherMessage → LauncherContext → Option Effect → Prop where
  /-- A pending worker is registered. -/
  | register {d : Oid} {entry : WorkerEntry}
    (hpending : ctx.pending_workers.lookup d = some entry) :
    Handling ctx started (.dbExtensionStatus d .exist) { ctx with
      pending_workers := ctx.pending_workers.erase d
      workers := ctx.workers.insert d entry } none
  /-- A registered worker is shut down. -/
  | shutdownRegistered {msg : LauncherMessage} {entry : WorkerEntry} (hmsg : msg.ShutsDown)
    (hworkers : ctx.workers.lookup msg.dbOid = some entry) :
    Handling ctx started msg { ctx with
      workers := ctx.workers.erase msg.dbOid
      terminated_workers := ctx.terminated_workers.insert entry.oid entry }
      (some (.terminate entry))
  /-- A pending worker is shut down. -/
  | shutdownPending {msg : LauncherMessage} {entry : WorkerEntry} (hmsg : msg.ShutsDown)
    (hworkers : ctx.workers.lookup msg.dbOid = none)
    (hpending : ctx.pending_workers.lookup msg.dbOid = some entry) :
    Handling ctx started msg { ctx with
      pending_workers := ctx.pending_workers.erase msg.dbOid
      terminated_workers := ctx.terminated_workers.insert entry.oid entry }
      (some (.terminate entry))
  /-- A message is forwarded to the registered worker. -/
  | forward {msg : LauncherMessage} {m : SubscriberMessage} {entry : WorkerEntry}
    (hmsg : msg.forward? = some m) (hworkers : ctx.workers.lookup msg.dbOid = some entry) :
    Handling ctx started msg ctx (some (.send entry m))
  /-- A worker is started, for a database without one. -/
  | start {d : Oid} {config : Config} {db_name : String} (hstarted : started = some db_name)
    (hworkers : ctx.workers.lookup d = none) (hpending : ctx.pending_workers.lookup d = none) :
    Handling ctx started (.newConfig d config) { ctx with
      counter := ctx.counter + 1
      pending_workers := ctx.pending_workers.insert d ⟨db_name, d, ctx.counter⟩ }
      (some (.start ⟨db_name, d, ctx.counter⟩))
  /-- Nothing happens: no pending worker to register, no worker to shut down, or no registered
  worker to forward to. A configuration is then for a pending worker, unless the start fails. -/
  | ignore {msg : LauncherMessage} (hshut : msg.ShutsDown → ctx.entry? msg.dbOid = none)
    (hforward : msg.forward? ≠ none → ctx.workers.lookup msg.dbOid = none)
    (hregister : msg = .dbExtensionStatus msg.dbOid .exist →
      ctx.pending_workers.lookup msg.dbOid = none)
    (hstart : ∀ config, msg = .newConfig msg.dbOid config → started.isSome →
      ctx.pending_workers.lookup msg.dbOid ≠ none) :
    Handling ctx started msg ctx none

namespace LauncherContext

variable {ctx : LauncherContext}

/-- A message to forward is dropped without a registered worker, unless it starts one. -/
theorem handling_dropped (started : Option String) {msg : LauncherMessage}
    (hforward : msg.forward? ≠ none) (hworkers : ctx.workers.lookup msg.dbOid = none)
    (hstart : ∀ config, msg = .newConfig msg.dbOid config → started.isSome →
      ctx.pending_workers.lookup msg.dbOid ≠ none) : Handling ctx started msg ctx none := by
  apply Handling.ignore
  · intro hmsg; exact absurd hmsg.forward?_eq_none hforward
  · exact fun _ => hworkers
  · intro hexist
    rw [hexist] at hforward
    exact absurd rfl hforward
  · exact hstart

/-- Registering is one of two cases. -/
theorem handling_registerWorker (started : Option String) (d : Oid) :
    Handling ctx started (.dbExtensionStatus d .exist) (ctx.registerWorker d) none := by
  unfold registerWorker
  cases hpending : ctx.pending_workers.lookup d with
  | some entry => exact .register hpending
  | none =>
    apply Handling.ignore
    · intro h; exact absurd rfl h
    · intro h; exact absurd rfl h
    · exact fun _ => hpending
    · intro config h; exact absurd h (by simp)

/-- Shutting a database down is one of three cases. -/
theorem handling_shutdownWorker (started : Option String) (msg : LauncherMessage)
    (hmsg : msg.ShutsDown) (hforward : msg.forward? = none)
    (hexist : msg ≠ .dbExtensionStatus msg.dbOid .exist) :
    Handling ctx started msg (ctx.shutdownWorker msg.dbOid).1 (ctx.shutdownWorker msg.dbOid).2 := by
  unfold shutdownWorker
  cases hworkers : ctx.workers.lookup msg.dbOid with
  | some entry => exact .shutdownRegistered hmsg hworkers
  | none =>
    cases hpending : ctx.pending_workers.lookup msg.dbOid with
    | some entry => exact .shutdownPending hmsg hworkers hpending
    | none =>
      apply Handling.ignore
      · intro _
        unfold entry?
        rw [hworkers, hpending]
      · intro h; exact absurd hforward h
      · intro h; exact absurd h hexist
      · intro config h
        rw [h] at hmsg
        exact hmsg.elim

/-- A configuration is forwarded, starts a worker, or is dropped. -/
theorem handling_newConfig (started : Option String) (d : Oid) (config : Config) :
    Handling ctx started (.newConfig d config) (ctx.handleNewConfigMessage d config started).1
      (ctx.handleNewConfigMessage d config started).2 := by
  unfold handleNewConfigMessage
  cases hworkers : ctx.workers.lookup d with
  | some entry => exact .forward rfl hworkers
  | none =>
    cases hpending : ctx.pending_workers.lookup d with
    | some entry =>
      refine handling_dropped started (by simp [LauncherMessage.forward?]) hworkers ?_
      intro config _ _ hnone
      exact absurd (hpending.symm.trans hnone) (by simp)
    | none =>
      unfold startSubscribeWorker
      cases hstarted : started with
      | some db_name => exact .start rfl hworkers hpending
      | none =>
        refine handling_dropped none (by simp [LauncherMessage.forward?]) hworkers ?_
        intro config _ hsome
        exact absurd hsome (by simp)

/-- A subscription request is forwarded, or dropped. -/
theorem handling_subscribe (started : Option String) (d : Oid) (subject fn_name : String) :
    Handling ctx started (.subscribe d subject fn_name)
      (ctx.handleSubscribeMessage d subject fn_name).1
      (ctx.handleSubscribeMessage d subject fn_name).2 := by
  unfold handleSubscribeMessage
  cases hworkers : ctx.workers.lookup d with
  | some entry => exact .forward rfl hworkers
  | none =>
    refine handling_dropped started (by simp [LauncherMessage.forward?]) hworkers ?_
    intro config h
    exact absurd h (by simp)

/-- The end of a subscription is forwarded, or dropped. -/
theorem handling_unsubscribe (started : Option String) (d : Oid) (subject fn_name : String) :
    Handling ctx started (.unsubscribe d subject fn_name)
      (ctx.handleUnsubscribeMessage d subject fn_name).1
      (ctx.handleUnsubscribeMessage d subject fn_name).2 := by
  unfold handleUnsubscribeMessage
  cases hworkers : ctx.workers.lookup d with
  | some entry => exact .forward rfl hworkers
  | none =>
    refine handling_dropped started (by simp [LauncherMessage.forward?]) hworkers ?_
    intro config h
    exact absurd h (by simp)

/-- Handling a message does one of the things listed. -/
theorem handling_of_handle (ctx : LauncherContext) (started : Option String)
    (msg : LauncherMessage) :
    Handling ctx started msg (ctx.handle started msg).1 (ctx.handle started msg).2 := by
  cases msg with
  | dbExtensionStatus d status =>
    cases status with
    | exist => exact handling_registerWorker started d
    | noExtension =>
      exact handling_shutdownWorker started (.dbExtensionStatus d .noExtension)
        (show ExtensionStatus.noExtension ≠ .exist by simp) rfl (by simp)
    | noForeignServer =>
      exact handling_shutdownWorker started (.dbExtensionStatus d .noForeignServer)
        (show ExtensionStatus.noForeignServer ≠ .exist by simp) rfl (by simp)
  | newConfig d config => exact handling_newConfig started d config
  | subscribe d subject fn_name => exact handling_subscribe started d subject fn_name
  | unsubscribe d subject fn_name => exact handling_unsubscribe started d subject fn_name
  | subscriberExit d reason =>
    exact handling_shutdownWorker started (.subscriberExit d reason) trivial rfl (by simp)
  | foreignServerDropped d =>
    exact handling_shutdownWorker started (.foreignServerDropped d) trivial rfl (by simp)

end LauncherContext

/-- A message to forward is forwarded whenever a worker is registered, and nothing else happens. -/
theorem Handling.of_registered {ctx ctx' : LauncherContext} {started : Option String}
    {msg : LauncherMessage} {effect : Option Effect} {m : SubscriberMessage} {entry : WorkerEntry}
    (h : Handling ctx started msg ctx' effect) (hforward : msg.forward? = some m)
    (hworkers : ctx.workers.lookup msg.dbOid = some entry) :
    ctx' = ctx ∧ effect = some (.send entry m) := by
  cases h with
  | register hpending => exact absurd hforward (by simp [LauncherMessage.forward?])
  | shutdownRegistered hmsg _ =>
    exact absurd (hmsg.forward?_eq_none.symm.trans hforward) (by simp)
  | shutdownPending hmsg _ _ => exact absurd (hmsg.forward?_eq_none.symm.trans hforward) (by simp)
  | forward hmsg hentry =>
    obtain rfl := Option.some.inj (hworkers.symm.trans hentry)
    obtain rfl := Option.some.inj (hforward.symm.trans hmsg)
    exact ⟨rfl, rfl⟩
  | start hstarted hnone _ => exact absurd (hworkers.symm.trans hnone) (by simp)
  | ignore hshut hnone hregister hstart =>
    have hnone := hnone (by simp [hforward])
    exact absurd (hworkers.symm.trans hnone) (by simp)

/-- The launcher has this entry for the database, pending or registered. -/
def LauncherContext.Has (ctx : LauncherContext) (d : Oid) (entry : WorkerEntry) : Prop :=
  ctx.pending_workers.lookup d = some entry ∨ ctx.workers.lookup d = some entry

/-- No entry in the order of a shutdown is no entry in either map. -/
theorem LauncherContext.entry?_eq_none (ctx : LauncherContext) (d : Oid) :
    ctx.entry? d = none ↔ ctx.workers.lookup d = none ∧ ctx.pending_workers.lookup d = none := by
  unfold entry?
  cases ctx.workers.lookup d with
  | some entry => simp
  | none => simp

/-- No entry in the order of a shutdown is no entry at all. -/
theorem LauncherContext.not_has_of_entry? {ctx : LauncherContext} {d : Oid}
    (h : ctx.entry? d = none) (entry : WorkerEntry) : ¬ ctx.Has d entry := by
  obtain ⟨hworkers, hpending⟩ := (ctx.entry?_eq_none d).mp h
  rintro (hentry | hentry)
  · exact absurd (hpending.symm.trans hentry) (by simp)
  · exact absurd (hworkers.symm.trans hentry) (by simp)

/-- The first entry in the order of a shutdown is an entry. -/
theorem LauncherContext.has_of_entry? {ctx : LauncherContext} {d : Oid} {entry : WorkerEntry}
    (h : ctx.entry? d = some entry) : ctx.Has d entry := by
  unfold entry? at h
  split at h
  · next entry' hworkers => exact Or.inr (hworkers.trans h)
  · exact Or.inl h

/-- Handling a message leaves the entries of the other databases as they are. -/
theorem Handling.lookup_of_ne {ctx ctx' : LauncherContext} {started : Option String}
    {msg : LauncherMessage} {effect : Option Effect} (h : Handling ctx started msg ctx' effect)
    {d : Oid} (hne : d ≠ msg.dbOid) :
    ctx'.pending_workers.lookup d = ctx.pending_workers.lookup d ∧
      ctx'.workers.lookup d = ctx.workers.lookup d := by
  cases h with
  | register hpending => exact ⟨AList.lookup_erase_ne hne, AList.lookup_insert_ne hne⟩
  | shutdownRegistered hmsg hworkers => exact ⟨rfl, AList.lookup_erase_ne hne⟩
  | shutdownPending hmsg hworkers hpending => exact ⟨AList.lookup_erase_ne hne, rfl⟩
  | forward hmsg hworkers => exact ⟨rfl, rfl⟩
  | start hstarted hworkers hpending => exact ⟨AList.lookup_insert_ne hne, rfl⟩
  | ignore hshut hforward hregister hstart => exact ⟨rfl, rfl⟩

/-- An entry was there before the message was handled, or it is that of the worker started. -/
theorem Handling.has {ctx ctx' : LauncherContext} {started : Option String}
    {msg : LauncherMessage} {effect : Option Effect} (h : Handling ctx started msg ctx' effect)
    {d : Oid} {entry : WorkerEntry} (hhas : ctx'.Has d entry) :
    ctx.Has d entry ∨ effect = some (.start entry) := by
  cases h with
  | register hpending =>
    left
    rcases hhas with hhas | hhas
    · exact Or.inl (HashMap.lookup_erase_eq_some hhas).2
    · rcases HashMap.lookup_insert_eq_some hhas with ⟨rfl, rfl⟩ | hold
      · exact Or.inl hpending
      · exact Or.inr hold
  | shutdownRegistered hmsg hworkers =>
    left
    rcases hhas with hhas | hhas
    · exact Or.inl hhas
    · exact Or.inr (HashMap.lookup_erase_eq_some hhas).2
  | shutdownPending hmsg hworkers hpending =>
    left
    rcases hhas with hhas | hhas
    · exact Or.inl (HashMap.lookup_erase_eq_some hhas).2
    · exact Or.inr hhas
  | forward hmsg hworkers => exact Or.inl hhas
  | start hstarted hworkers hpending =>
    rcases hhas with hhas | hhas
    · rcases HashMap.lookup_insert_eq_some hhas with ⟨-, rfl⟩ | hold
      · exact Or.inr rfl
      · exact Or.inl (Or.inl hold)
    · exact Or.inl (Or.inr hhas)
  | ignore hshut hforward hregister hstart => exact Or.inl hhas

/-- A pending entry was pending before the message was handled, or it is that of the worker
started. -/
theorem Handling.pending {ctx ctx' : LauncherContext} {started : Option String}
    {msg : LauncherMessage} {effect : Option Effect} (h : Handling ctx started msg ctx' effect)
    {d : Oid} {entry : WorkerEntry} (hpending : ctx'.pending_workers.lookup d = some entry) :
    ctx.pending_workers.lookup d = some entry ∨ effect = some (.start entry) := by
  cases h with
  | register _ => exact Or.inl (HashMap.lookup_erase_eq_some hpending).2
  | shutdownPending _ _ _ => exact Or.inl (HashMap.lookup_erase_eq_some hpending).2
  | start _ _ _ =>
    rcases HashMap.lookup_insert_eq_some hpending with ⟨-, rfl⟩ | hold
    · exact Or.inr rfl
    · exact Or.inl hold
  | _ => exact Or.inl hpending

/-- A terminated entry was terminated before the message was handled, or it is the one that the
message shuts down, filed under its own database. -/
theorem Handling.terminated {ctx ctx' : LauncherContext} {started : Option String}
    {msg : LauncherMessage} {effect : Option Effect} (h : Handling ctx started msg ctx' effect)
    {d : Oid} {entry : WorkerEntry} (hentry : ctx'.terminated_workers.lookup d = some entry) :
    ctx.terminated_workers.lookup d = some entry ∨
      (msg.ShutsDown ∧ ctx.Has msg.dbOid entry ∧ entry.oid = d) := by
  have hinsert : ∀ entry', (ctx.terminated_workers.insert entry'.oid entry').lookup d = some entry →
      ctx.terminated_workers.lookup d = some entry ∨ (entry' = entry ∧ entry.oid = d) := by
    intro entry' hlookup
    rcases HashMap.lookup_insert_eq_some hlookup with ⟨rfl, rfl⟩ | hold
    · exact Or.inr ⟨rfl, rfl⟩
    · exact Or.inl hold
  cases h with
  | shutdownRegistered hmsg hworkers =>
    exact (hinsert _ hentry).imp_right fun ⟨heq, hoid⟩ => ⟨hmsg, Or.inr (heq ▸ hworkers), hoid⟩
  | shutdownPending hmsg hworkers hpending =>
    exact (hinsert _ hentry).imp_right fun ⟨heq, hoid⟩ => ⟨hmsg, Or.inl (heq ▸ hpending), hoid⟩
  | _ => exact Or.inl hentry

/-- After the report that all is there, the database has no pending entry. -/
theorem Handling.pending_of_exist {ctx ctx' : LauncherContext} {started : Option String} {d : Oid}
    {effect : Option Effect} (h : Handling ctx started (.dbExtensionStatus d .exist) ctx' effect) :
    ctx'.pending_workers.lookup d = none := by
  cases h with
  | register hpending => exact AList.lookup_erase _ _
  | shutdownRegistered hmsg _ => exact absurd rfl hmsg
  | shutdownPending hmsg _ _ => exact absurd rfl hmsg
  | forward hforward _ => exact absurd hforward (by simp [LauncherMessage.forward?])
  | ignore _ _ hregister _ => exact hregister rfl

/-- After a message that shuts its database down, the database has no entry. -/
theorem Handling.not_has {ctx ctx' : LauncherContext} {started : Option String}
    {msg : LauncherMessage} {effect : Option Effect} (h : Handling ctx started msg ctx' effect)
    (hmsg : msg.ShutsDown) (hdisjoint : ∀ entry, ctx.pending_workers.lookup msg.dbOid = some entry →
      ctx.workers.lookup msg.dbOid = none) (entry : WorkerEntry) : ¬ ctx'.Has msg.dbOid entry := by
  cases h with
  | register hpending => exact absurd rfl hmsg
  | shutdownRegistered _ hworkers =>
    rintro (hentry | hentry)
    · exact absurd (hworkers.symm.trans (hdisjoint entry hentry)) (by simp)
    · exact absurd hentry (by simp)
  | shutdownPending _ hworkers hpending =>
    rintro (hentry | hentry)
    · exact absurd hentry (by simp)
    · exact absurd (hworkers.symm.trans hentry) (by simp)
  | forward hforward hworkers => exact absurd (hmsg.forward?_eq_none.symm.trans hforward) (by simp)
  | start hstarted hworkers hpending => exact hmsg.elim
  | ignore hshut hforward hregister hstart => exact ctx.not_has_of_entry? (hshut hmsg) entry

/-- An entry stays, pending or registered, unless the message shuts its database down. -/
theorem Handling.has_after {ctx ctx' : LauncherContext} {started : Option String}
    {msg : LauncherMessage} {effect : Option Effect} (h : Handling ctx started msg ctx' effect)
    {d : Oid} {entry : WorkerEntry}
    (hdisjoint : ∀ entry, ctx.pending_workers.lookup d = some entry → ctx.workers.lookup d = none)
    (hhas : ctx.Has d entry) : ctx'.Has d entry ∨ (msg.ShutsDown ∧ msg.dbOid = d) := by
  rcases eq_or_ne d msg.dbOid with rfl | hne
  · cases h with
    | register hpending =>
      rcases hhas with hhas | hhas
      · left; right
        rw [← Option.some.inj (hpending.symm.trans hhas)]
        exact AList.lookup_insert _
      · exact absurd ((hdisjoint _ hpending).symm.trans hhas) (by simp)
    | shutdownRegistered hmsg hworkers => exact Or.inr ⟨hmsg, rfl⟩
    | shutdownPending hmsg hworkers hpending => exact Or.inr ⟨hmsg, rfl⟩
    | forward hmsg hworkers => exact Or.inl hhas
    | start hstarted hworkers hpending =>
      rcases hhas with hhas | hhas
      · exact absurd (hpending.symm.trans hhas) (by simp)
      · exact absurd (hworkers.symm.trans hhas) (by simp)
    | ignore hshut hforward hregister hstart => exact Or.inl hhas
  · left
    obtain ⟨hpending, hworkers⟩ := h.lookup_of_ne hne
    unfold LauncherContext.Has
    rw [hpending, hworkers]
    exact hhas

end PgNats
