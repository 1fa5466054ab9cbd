import PgNats.Launcher.Context
import PgNats.Subscriber.Loop

/-!
# The launcher, the subscribers, and the backends

The whole system as one step function. The launcher takes the exclusive lock of the bus for the
whole of `process_launcher_bus`, the forwards to subscribers included. A subscriber takes it to
report its status and its exit, and a backend to post. A call that takes the lock for itself alone
is one step, possible only while the launcher does not hold it, so a process that wants to make such
a step then is waiting for the lock.

The bus is idealized: a list from which the launcher takes what was put on it, in order and without
loss, and whether it has room is left open. The ring queue does this while its calls are `Sound`
(`RingQueue.refines_iff_sound`). A call that is not sound loses messages or panics, and no run here
shows that.

What is assumed of Postgres. The queue of a subscriber is smaller than any message, since
`WorkerEntry::start` takes the smaller of the requested size and the minimum, so a forward returns
only when its receiver is attached and reads (`Event.sent`), or detaches after having been attached
(`Event.sendFailed`). The validator runs inside a transaction that runs one `CREATE SERVER` or
`ALTER SERVER`, with the full new options, before the catalog changes and before the trigger of
`CREATE SERVER` looks at it; the transaction may then be rolled back. Other processes see committed
rows only. An altered or dropped row is locked until the end of the transaction.

Four histories are kept that the code does not have: the sender of each message on the bus, the
messages accepted and the messages taken by the launcher, each with the worker that its database had
then, the messages delivered to each subscriber, and the configurations posted with their
transactions.
-/

namespace PgNats

/-! ## The catalog and its transactions -/

/-- What is committed in a database. -/
structure Catalog where
  /-- Whether the extension is installed. -/
  installed : Bool
  /-- The foreign servers of its wrapper. -/
  servers : List Server
  /-- The subscriptions table and the callback calls. -/
  table : Database
  deriving DecidableEq

/-- `check_extension_status`, with queries that do not fail. A failing one of
`fetch_fdw_server_name` is an empty result to the source. -/
def Catalog.status (catalog : Catalog) : ExtensionStatus :=
  if catalog.installed then
    if catalog.servers.isEmpty then .noForeignServer else .exist
  else .noExtension

/-- The statement of a transaction. -/
inductive Change where
  /-- `CREATE SERVER`. -/
  | create (name : String) (options : List (String × String))
  /-- `ALTER SERVER`, with the options that result. -/
  | alter (name : String) (options : List (String × String))
  /-- `DROP SERVER`. -/
  | drop (name : String)
  deriving DecidableEq, Repr

/-- The options that the validator gets, if it is called. -/
def Change.options? : Change → Option (List (String × String))
  | .create _ options => some options
  | .alter _ options => some options
  | .drop _ => none

/-- The configuration that the validator posts, if it is called. -/
def Change.config? (change : Change) : Option Config :=
  change.options?.map fun options => validatorConfig (optionTexts options)

/-- The servers once the statement's transaction is committed. -/
def Change.apply (servers : List Server) : Change → List Server
  | .create name options => servers ++ [{ name, options }]
  | .alter name options =>
    servers.map fun server => if server.name = name then { server with options } else server
  | .drop name => servers.filter (·.name ≠ name)

/-- Whether the server that the statement is about is there. `CREATE SERVER` makes its own. -/
def Change.Applies (servers : List Server) : Change → Prop
  | .create _ _ => True
  | .alter name _ => ∃ server ∈ servers, server.name = name
  | .drop name => ∃ server ∈ servers, server.name = name

instance (servers : List Server) : ∀ change, Decidable (Change.Applies servers change)
  | .create _ _ => inferInstanceAs (Decidable True)
  | .alter _ _ => inferInstanceAs (Decidable (∃ server ∈ servers, _))
  | .drop _ => inferInstanceAs (Decidable (∃ server ∈ servers, _))

/-- An open transaction. -/
structure Txn where
  /-- Its database. -/
  db : Oid
  /-- Its statement. -/
  change : Change
  /-- Whether the statement is done, the trigger included. -/
  executed : Bool
  deriving DecidableEq, Repr

/-! ## The subscriber processes -/

/-- Where a subscriber process stands. -/
inductive Pc where
  /-- Before `check_extension_status`. -/
  | starting
  /-- Before the report of the status. -/
  | reporting (status : ExtensionStatus)
  /-- Before `fetch_config`. -/
  | fetching
  /-- Before the connection. -/
  | connecting (config : Config)
  /-- Connected, before it attaches to its queue. -/
  | attaching (config : Config)
  /-- Attached, in its loop. -/
  | looping (sub : Subscriber)
  /-- Before the report of its exit, with the queue detached again if it was attached. -/
  | leaving (attached : Bool) (reason : Except String Unit)
  /-- Gone. -/
  | exited (attached : Bool)
  deriving DecidableEq

/-- A subscriber process. -/
structure Proc where
  /-- Its database. -/
  db : Oid
  /-- Where it stands. -/
  pc : Pc
  /-- Whether the launcher sent it `SIGTERM`. -/
  terminating : Bool
  /-- The messages that came through its queue. -/
  delivered : List SubscriberMessage
  deriving DecidableEq

/-- What a subscriber process can do. -/
inductive ProcEvent where
  /-- It ends before it has a context: the database is gone, or it was terminated before it ran. -/
  | abandon
  /-- It checks the extension. -/
  | check
  /-- It reports its status, where `room` says whether the bus takes the message. -/
  | report (room : Bool)
  /-- It reads the configuration. -/
  | fetch
  /-- It connects to NATS. -/
  | connect
  /-- It attaches to its queue, notifies, and restores its state. -/
  | attach (env : Env)
  /-- A part of its start-up fails. -/
  | fail (reason : String)
  /-- A step of its loop. -/
  | loop (e : Subscriber.Event)
  /-- It reports its exit and ends. -/
  | exit (room : Bool)

/-- Decisions of a condition on what a process does, for the events about which it says anything. -/
structure ProcEvent.Decisions (C : ProcEvent → Prop) where
  /-- It ends before it has a context. -/
  abandon : Decidable (C .abandon) := by exact .isTrue trivial
  /-- It checks the extension. -/
  check : Decidable (C .check) := by exact .isTrue trivial
  /-- It reports its status. -/
  report : ∀ room, Decidable (C (.report room)) := by exact fun _ => .isTrue trivial
  /-- It reads the configuration. -/
  fetch : Decidable (C .fetch) := by exact .isTrue trivial
  /-- It connects. -/
  connect : Decidable (C .connect) := by exact .isTrue trivial
  /-- It attaches. -/
  attach : ∀ env, Decidable (C (.attach env)) := by exact fun _ => .isTrue trivial
  /-- A part of its start-up fails. -/
  fail : ∀ reason, Decidable (C (.fail reason)) := by exact fun _ => .isTrue trivial
  /-- A step of its loop. -/
  loop : ∀ e, Decidable (C (.loop e)) := by exact fun _ => .isTrue trivial
  /-- It reports its exit. -/
  exit : ∀ room, Decidable (C (.exit room)) := by exact fun _ => .isTrue trivial

/-- The condition is decided for every event. -/
def ProcEvent.Decisions.decidable {C : ProcEvent → Prop} (d : Decisions C) : ∀ e, Decidable (C e)
  | .abandon => d.abandon
  | .check => d.check
  | .report room => d.report room
  | .fetch => d.fetch
  | .connect => d.connect
  | .attach env => d.attach env
  | .fail reason => d.fail reason
  | .loop e => d.loop e
  | .exit room => d.exit room

/-- The events for which the process needs the lock of the bus. -/
def ProcEvent.locks : ProcEvent → Bool
  | .report _ => true
  | .exit _ => true
  | _ => false

/-- What a step of a process leaves. -/
structure ProcStep where
  /-- Where the process stands. -/
  pc : Pc
  /-- The message that it put on the bus. -/
  posted : Option LauncherMessage
  /-- The table of its database. -/
  table : Database

/-- The steps of the loop that the process makes by itself. The launcher's messages come with the
launcher's steps, a check sees the catalog, and the loop ends from outside only after `SIGTERM`. -/
def loopEnabled (terminating : Bool) (catalog : Catalog) : Subscriber.Event → Bool
  | .deliver _ => false
  | .restart _ _ => false
  | .wake status _ => status == catalog.status
  | .terminate => terminating
  | .sharedDetached => terminating
  | _ => true

/-- One step of a process, if it is possible. The queries for the extension and for the server do
not fail, and a connect succeeds or gives an error: that it panics, as `async-nats` does for a
capacity of 0, is not modelled. -/
def Proc.step (p : Proc) (catalog : Catalog) : ProcEvent → Option ProcStep
  | .abandon => match p.pc with
    | .starting => some ⟨.exited false, none, catalog.table⟩
    | _ => none
  | .check => match p.pc with
    | .starting => some ⟨.reporting catalog.status, none, catalog.table⟩
    | _ => none
  | .report room => match p.pc, room with
    -- Only a process that reports `Exist` goes on; another returns `Ok` and reports its exit.
    | .reporting .exist, true =>
      some ⟨.fetching, some (.dbExtensionStatus p.db .exist), catalog.table⟩
    | .reporting status, true =>
      some ⟨.leaving false (.ok ()), some (.dbExtensionStatus p.db status), catalog.table⟩
    | .reporting _, false =>
      some ⟨.leaving false (.error "Failed to send to launcher message"), none, catalog.table⟩
    | _, _ => none
  | .fetch => match p.pc with
    | .fetching => some ⟨.connecting (fetchConfig catalog.servers), none, catalog.table⟩
    | _ => none
  | .connect => match p.pc with
    | .connecting config => some ⟨.attaching config, none, catalog.table⟩
    | _ => none
  | .attach env => match p.pc with
    | .attaching config =>
      some ⟨.looping (Subscriber.start catalog.table [] config env), none, catalog.table⟩
    | _ => none
  | .fail reason => match p.pc with
    | .fetching => some ⟨.leaving false (.error reason), none, catalog.table⟩
    | .connecting _ => some ⟨.leaving false (.error reason), none, catalog.table⟩
    | .attaching _ => some ⟨.leaving false (.error reason), none, catalog.table⟩
    | _ => none
  | .loop e => match p.pc with
    | .looping sub =>
      -- The process works on the table as it is now, which its predecessors have written too.
      if loopEnabled p.terminating catalog e then
        (Subscriber.step { sub with db := catalog.table } e).map fun sub =>
          match sub.phase with
          | .exited result => ⟨.leaving true result, none, sub.db⟩
          | _ => ⟨.looping sub, none, sub.db⟩
      else none
    | _ => none
  | .exit room => match p.pc with
    | .leaving attached reason =>
      some ⟨.exited attached, if room then some (.subscriberExit p.db reason) else none,
        catalog.table⟩
    | _ => none

/-! ## The system -/

/-- Where the launcher stands. -/
inductive LauncherPc where
  /-- In `add_subscribe_workers`, with these databases to do. -/
  | starting (oids : List Oid)
  /-- Waiting for its latch, or for the workers that it terminated. -/
  | idle
  /-- In `process_launcher_bus`, with the lock. -/
  | draining
  /-- In `ShmMqSender::send` to this worker, with the lock. -/
  | sending (worker : ℕ) (msg : SubscriberMessage)
  deriving DecidableEq

/-- A message on the bus. -/
structure Item where
  /-- The message. -/
  msg : LauncherMessage
  /-- The subscriber process that sent it, or `none` for a backend. -/
  sender : Option ℕ
  deriving DecidableEq

/-- The state of the system. -/
structure System where
  /-- Where the launcher stands. -/
  launcher : LauncherPc
  /-- The launcher's context. -/
  ctx : LauncherContext
  /-- The bus, the oldest message first. -/
  bus : List Item
  /-- The subscriber processes, by the number of their start. -/
  procs : List Proc
  /-- The committed catalog of each database. -/
  catalog : Oid → Catalog
  /-- The open transactions. -/
  txns : HashMap ℕ Txn
  /-- How many transactions have begun. -/
  next_txn : ℕ
  /-- The messages that the bus has accepted. -/
  accepted : List LauncherMessage
  /-- The messages that the launcher has taken, with the worker of their database at that time. -/
  taken : List (LauncherMessage × Option ℕ)
  /-- The configurations posted, the newest first, with their transactions and databases. -/
  posted : List (ℕ × Oid × Config)

namespace System

/-- The system when the launcher starts. -/
def init (oids : List Oid) (catalog : Oid → Catalog) : System where
  launcher := .starting oids
  ctx := .default
  bus := []
  procs := []
  catalog := catalog
  txns := ∅
  next_txn := 0
  accepted := []
  taken := []
  posted := []

/-- Whether the launcher holds the lock of the bus. -/
def Locked (s : System) : Prop :=
  match s.launcher with
  | .starting _ => False
  | .idle => False
  | .draining => True
  | .sending _ _ => True

instance (s : System) : Decidable s.Locked := by
  unfold Locked
  cases s.launcher
  · exact .isFalse id
  · exact .isFalse id
  · exact .isTrue trivial
  · exact .isTrue trivial

/-- What can happen in the system. -/
inductive Event where
  /-- The launcher starts the next subscriber of its list, or is done with it. -/
  | boot (started : Option String)
  /-- The launcher has waited for the terminated workers and takes the lock. -/
  | wake
  /-- The launcher takes the next message and handles it. -/
  | recv (started : Option String)
  /-- The forward returns. -/
  | sent
  /-- The forward fails. -/
  | sendFailed
  /-- The launcher finds the bus empty and releases the lock. -/
  | unlock
  /-- A subscriber process makes a step. -/
  | proc (g : ℕ) (e : ProcEvent)
  /-- A backend's request is accepted. -/
  | request (subscribe : Bool) (db_oid : Oid) (subject fn_name : String)
  /-- A backend's statement begins, and the bus accepts the message of its validator. -/
  | ddl (db_oid : Oid) (change : Change)
  /-- The statement of a transaction is executed, or its trigger rejects it. -/
  | execute (t : ℕ)
  /-- A transaction commits. -/
  | commit (t : ℕ)
  /-- A transaction is rolled back. -/
  | rollback (t : ℕ)
  /-- The extension is created or dropped. -/
  | extension (db_oid : Oid) (installed : Bool)

/-- Decisions of a condition on a step, for the events about which it says anything. -/
structure Event.Decisions (C : Event → Prop) where
  /-- The launcher starts the next subscriber. -/
  boot : ∀ started, Decidable (C (.boot started)) := by exact fun _ => .isTrue trivial
  /-- The launcher takes the lock. -/
  wake : Decidable (C .wake) := by exact .isTrue trivial
  /-- The launcher takes a message. -/
  recv : ∀ started, Decidable (C (.recv started)) := by exact fun _ => .isTrue trivial
  /-- The forward returns. -/
  sent : Decidable (C .sent) := by exact .isTrue trivial
  /-- The forward fails. -/
  sendFailed : Decidable (C .sendFailed) := by exact .isTrue trivial
  /-- The launcher releases the lock. -/
  unlock : Decidable (C .unlock) := by exact .isTrue trivial
  /-- A subscriber process makes a step. -/
  proc : ∀ g e, Decidable (C (.proc g e)) := by exact fun _ _ => .isTrue trivial
  /-- A request is accepted. -/
  request : ∀ subscribe db_oid subject fn_name,
    Decidable (C (.request subscribe db_oid subject fn_name)) := by
      exact fun _ _ _ _ => .isTrue trivial
  /-- A statement begins. -/
  ddl : ∀ db_oid change, Decidable (C (.ddl db_oid change)) := by exact fun _ _ => .isTrue trivial
  /-- A statement is executed. -/
  execute : ∀ t, Decidable (C (.execute t)) := by exact fun _ => .isTrue trivial
  /-- A transaction commits. -/
  commit : ∀ t, Decidable (C (.commit t)) := by exact fun _ => .isTrue trivial
  /-- A transaction is rolled back. -/
  rollback : ∀ t, Decidable (C (.rollback t)) := by exact fun _ => .isTrue trivial
  /-- The extension is created or dropped. -/
  extension : ∀ db_oid installed, Decidable (C (.extension db_oid installed)) := by
    exact fun _ _ => .isTrue trivial

/-- The condition is decided for every event. -/
def Event.Decisions.decidable {C : Event → Prop} (d : Decisions C) : ∀ e, Decidable (C e)
  | .boot started => d.boot started
  | .wake => d.wake
  | .recv started => d.recv started
  | .sent => d.sent
  | .sendFailed => d.sendFailed
  | .unlock => d.unlock
  | .proc g e => d.proc g e
  | .request subscribe db_oid subject fn_name => d.request subscribe db_oid subject fn_name
  | .ddl db_oid change => d.ddl db_oid change
  | .execute t => d.execute t
  | .commit t => d.commit t
  | .rollback t => d.rollback t
  | .extension db_oid installed => d.extension db_oid installed

/-- A message is put on the bus. -/
def put (s : System) (msg : LauncherMessage) (sender : Option ℕ) : System :=
  { s with bus := s.bus ++ [{ msg, sender }], accepted := s.accepted ++ [msg] }

/-- The effect of a handler. -/
def perform (s : System) (effect : Option Effect) : System := { s with
  launcher := match effect with
    | some (.send entry msg) => .sending entry.worker msg
    | _ => s.launcher
  procs := match effect with
    | some (.start entry) =>
      s.procs ++ [{ db := entry.oid, pc := .starting, terminating := false, delivered := [] }]
    | some (.terminate entry) =>
      s.procs.modify entry.worker fun p => { p with terminating := true }
    | _ => s.procs }

/-- The launcher takes a message off the bus and handles it. -/
def take (s : System) (item : Item) (rest : List Item) (started : Option String) : System :=
  let (ctx, effect) := s.ctx.handle started item.msg
  perform { s with
    bus := rest
    ctx
    taken := s.taken ++
      [(item.msg, (s.ctx.entry? item.msg.dbOid).map WorkerEntry.worker)] } effect

/-- A process makes a step. -/
def advance (s : System) (g : ℕ) (p : Proc) (r : ProcStep) : System := { s with
  procs := s.procs.set g { p with pc := r.pc }
  catalog := Function.update s.catalog p.db { s.catalog p.db with table := r.table }
  bus := s.bus ++ r.posted.toList.map fun msg => { msg, sender := some g }
  accepted := s.accepted ++ r.posted.toList }

/-- A statement begins. `DROP SERVER` has no validator. -/
def begin (s : System) (db : Oid) (change : Change) : System := { s with
  txns := s.txns.insert s.next_txn { db, change, executed := false }
  next_txn := s.next_txn + 1
  bus := s.bus ++ change.config?.toList.map fun config => ⟨.newConfig db config, none⟩
  accepted := s.accepted ++ change.config?.toList.map fun config => .newConfig db config
  posted := change.config?.toList.map (fun config => (s.next_txn, db, config)) ++ s.posted }

/-- Whether an executed statement of an open transaction has locked the row of the server. -/
def rowLocked (s : System) (db : Oid) (name : String) : Bool :=
  s.txns.values.any fun txn => txn.db == db && txn.executed &&
    match txn.change with
    | .create _ _ => false
    | .alter name' _ => name' == name
    | .drop name' => name' == name

/-- The statement of a transaction is executed. The trigger counts the committed servers and the
new one, and raises an error for more than one, which rolls the transaction back. -/
def executeTxn (s : System) (t : ℕ) (txn : Txn) : Option System :=
  let done := { s with txns := s.txns.insert t { txn with executed := true } }
  match txn.change with
  | .create _ _ =>
    -- The new row is visible to the trigger, the rows of other open transactions are not.
    if (s.catalog txn.db).servers.length + 1 > 1 then some { s with txns := s.txns.erase t }
    else some done
  | .alter name _ =>
    if txn.change.Applies (s.catalog txn.db).servers ∧ ¬ s.rowLocked txn.db name then some done
    else none
  | .drop name =>
    if txn.change.Applies (s.catalog txn.db).servers ∧ ¬ s.rowLocked txn.db name then some done
    else none

/-- One step, if it is possible. -/
def step (s : System) : Event → Option System
  | .boot started => match s.launcher with
    | .starting (oid :: oids) =>
      let (ctx, effect) := s.ctx.startSubscribeWorker oid started
      some (perform { s with launcher := .starting oids, ctx } effect)
    | .starting [] => some { s with launcher := .idle }
    | _ => none
  | .wake =>
    -- `wait_for_shutdown` blocks until the postmaster says that the process has stopped.
    let waited := s.ctx.terminated_workers.values.all fun entry =>
      match s.procs[entry.worker]? with
      | some { pc := .exited _, .. } => true
      | _ => false
    if s.launcher = .idle ∧ waited then
      some { s with launcher := .draining, ctx := s.ctx.processTerminatedWorkers }
    else none
  | .recv started => match s.launcher, s.bus with
    | .draining, item :: rest => some (s.take item rest started)
    | _, _ => none
  | .sent => match s.launcher with
    | .sending worker msg => match s.procs[worker]? with
      | some p => match p.pc with
        -- Before it attaches, a receiver reads nothing, and the send goes on waiting.
        | .looping sub => (sub.step (.deliver msg)).map fun sub => { s with
            launcher := .draining
            procs := s.procs.set worker
              { p with pc := .looping sub, delivered := p.delivered ++ [msg] } }
        | _ => none
      | none => none
    | _ => none
  | .sendFailed => match s.launcher with
    | .sending worker _ => match s.procs[worker]? with
      | some p => match p.pc with
        -- Only a receiver that was attached can be seen to detach.
        | .leaving true _ => some { s with launcher := .draining }
        | .exited true => some { s with launcher := .draining }
        | _ => none
      | none => none
    | _ => none
  | .unlock =>
    if s.launcher = .draining ∧ s.bus = [] then some { s with launcher := .idle } else none
  | .proc g e => match s.procs[g]? with
    | some p =>
      -- A process that needs the lock waits for the launcher.
      if e.locks ∧ s.Locked then none
      else (p.step (s.catalog p.db) e).map (s.advance g p)
    | none => none
  | .request subscribe db_oid subject fn_name =>
    if s.Locked then none
    else some (s.put (if subscribe then .subscribe db_oid subject fn_name
      else .unsubscribe db_oid subject fn_name) none)
  | .ddl db_oid change =>
    -- The validator posts during the statement, so it is the statement that waits for the lock.
    if (change.options?.isSome ∧ s.Locked) ∨ (s.catalog db_oid).installed = false ∨
        ¬ change.Applies (s.catalog db_oid).servers then none
    else some (s.begin db_oid change)
  | .execute t => match s.txns.lookup t with
    | some txn => if txn.executed then none else s.executeTxn t txn
    | none => none
  | .commit t => match s.txns.lookup t with
    | some txn =>
      -- A commit tells the launcher nothing: the validator has posted before.
      if txn.executed ∧ txn.change.Applies (s.catalog txn.db).servers then
        some { s with
          txns := s.txns.erase t
          catalog := Function.update s.catalog txn.db { s.catalog txn.db with
            servers := txn.change.apply (s.catalog txn.db).servers } }
      else none
    | none => none
  | .rollback t => match s.txns.lookup t with
    | some _ => some { s with txns := s.txns.erase t }
    | none => none
  | .extension db_oid installed =>
    -- A statement on a server holds locks that creating or dropping the extension waits for.
    if s.txns.values.any fun txn => txn.db == db_oid then none
    else some { s with catalog := Function.update s.catalog db_oid (
      if installed then { s.catalog db_oid with installed := true }
      else { installed := false, servers := [],
             table := { (s.catalog db_oid).table with subscriptions := [] } }) }

end System

end PgNats
