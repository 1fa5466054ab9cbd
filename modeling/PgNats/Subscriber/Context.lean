import PgNats.Subscriber.Nats

/-!
# The subscriber's context

The model of `src/bgw/subscriber/context.rs`. The internal channel is a list of messages, which the
main loop takes from the front; `sender` is the end that the context and the handler tasks append
to. `Env` holds what one pass of the loop finds outside the process: the role of the instance, what
a notification is built from, and whether the catalog read and the publication succeed.
-/

namespace PgNats

/-- `InternalWorkerMessage`. -/
inductive InternalWorkerMessage where
  /-- Subscribe the function; with `register`, also add the row. -/
  | subscribe (register : Bool) (subject fn_name : String)
  /-- Unsubscribe the function and delete the row. -/
  | unsubscribe (subject fn_name : String)
  /-- A message of the subject arrived. -/
  | callbackCall (subject : String) (data : List UInt8)
  /-- The NATS server refused the subscription. -/
  | unsubscribeSubject (subject reason : String)
  deriving DecidableEq, Repr

/-- What a pass of the loop finds outside the process. -/
structure Env where
  /-- What `fetch_status` returns. -/
  role : PgInstanceStatus
  /-- Whether the subscriptions can be read. -/
  selected : Bool
  /-- What a notification is built from. -/
  settings : Instance
  /-- Whether a publication succeeds. -/
  published : Bool

/-- `SubscriberContext`. -/
structure SubscriberContext where
  /-- The messages in the internal channel. -/
  sender : List InternalWorkerMessage
  /-- The tokio runtime. -/
  rt : Runtime
  /-- The configuration in use. -/
  config : Config
  /-- The NATS connection. -/
  nats : NatsConnectionState
  /-- The role as last seen. -/
  status : PgInstanceStatus
  deriving DecidableEq

/-- The channel has got messages of `restore_state` behind those that it had, for rows of the
table. -/
def Restores (db : Database) (before after : List InternalWorkerMessage) : Prop :=
  ∃ rows : List (String × String), (∀ row ∈ rows, row ∈ db.subscriptions) ∧
    after = before ++ rows.map fun row => InternalWorkerMessage.subscribe false row.1 row.2

/-- No row is restored. -/
theorem Restores.none (db : Database) (sender : List InternalWorkerMessage) :
    Restores db sender sender :=
  ⟨[], fun _ h => absurd h List.not_mem_nil, (List.append_nil _).symm⟩

namespace SubscriberContext

/-- `SubscriberContext::new`. -/
def new (rt : Runtime) (sender : List InternalWorkerMessage) (nats : NatsConnectionState)
    (config : Config) (env : Env) : SubscriberContext :=
  { sender, rt, config, nats, status := env.role }

/-- `SubscriberContext::send_notification`. -/
def sendNotification (ctx : SubscriberContext) (env : Env) :
    SubscriberContext × Except Unit Unit :=
  match PgInstanceNotification.new ctx.status ctx.config.patroni_url env.settings with
  | none => (ctx, .error ())
  | some notification =>
    if env.published then
      ({ ctx with rt := { ctx.rt with
          published := ctx.rt.published ++ [(ctx.config.notify_subject, notification)] } }, .ok ())
    else (ctx, .error ())

/-- `SubscriberContext::restore_state`. -/
def restoreState (ctx : SubscriberContext) (db : Database) (env : Env) :
    SubscriberContext × Except Unit Unit :=
  match fetchSubjectWithCallbacks db env.selected with
  | .error () => (ctx, .error ())
  | .ok subs =>
    ({ ctx with sender := ctx.sender ++
        subs.map fun row => InternalWorkerMessage.subscribe false row.1 row.2 }, .ok ())

/-- `SubscriberContext::check_migration`. -/
def checkMigration (ctx : SubscriberContext) (db : Database) (env : Env) :
    SubscriberContext × Except Unit Unit :=
  match ctx.status, env.role with
  | .master, .replica =>
    -- The map that `unsubscribe_all` returns is dropped: a promotion reads the table instead.
    let (_, nats, rt) := ctx.nats.unsubscribeAll ctx.rt
    sendNotification { ctx with status := .replica, nats, rt } env
  | .replica, .master =>
    match restoreState { ctx with status := .master } db env with
    -- The role stays `Master` although nothing was restored.
    | (ctx, .error ()) => (ctx, .error ())
    | (ctx, .ok ()) => sendNotification ctx env
  | _, _ => (ctx, .ok ())

/-- `SubscriberContext::apply_config`. -/
def applyConfig (ctx : SubscriberContext) (config : Config) (connected : Bool) :
    SubscriberContext × Except Unit Unit :=
  if ctx.config.nats_opt ≠ config.nats_opt then
    match ctx.nats.reconnectNats config.nats_opt ctx.rt connected with
    -- The configuration that could not be connected is not kept.
    | (nats, rt, .error ()) => ({ ctx with nats, rt }, .error ())
    | (nats, rt, .ok ()) => ({ ctx with nats, rt, config }, .ok ())
  else ({ ctx with config }, .ok ())

/-- `SubscriberContext::is_master`. -/
def isMaster (ctx : SubscriberContext) : Bool := ctx.status == .master

/-- `SubscriberContext::is_replica`. -/
def isReplica (ctx : SubscriberContext) : Bool := ctx.status == .replica

/-- `SubscriberContext::handle_subscribe`. -/
def handleSubscribe (ctx : SubscriberContext) (subject fn_name : String) : SubscriberContext :=
  let (nats, rt) := ctx.nats.subscribe subject fn_name ctx.rt
  { ctx with nats, rt }

/-- `SubscriberContext::handle_unsubscribe`. -/
def handleUnsubscribe (ctx : SubscriberContext) (subject fn_name : String) : SubscriberContext :=
  let (nats, rt) := ctx.nats.unsubscribe subject fn_name ctx.rt
  { ctx with nats, rt }

/-- `SubscriberContext::handle_unsubscribe_subject`. -/
def handleUnsubscribeSubject (ctx : SubscriberContext) (subject : String) : SubscriberContext :=
  let (nats, rt) := ctx.nats.unsubscribeSubject subject ctx.rt
  { ctx with nats, rt }

/-- `SubscriberContext::handle_callback`. -/
def handleCallback {σ : Type} (ctx : SubscriberContext) (db : σ) (subject : String)
    (data : List UInt8) (callback : σ → String → List UInt8 → σ × Except CallError Unit) :
    SubscriberContext × σ :=
  let (nats, db) := ctx.nats.runCallbacks subject data callback db
  ({ ctx with nats }, db)

/-! ## What the operations leave alone -/

section Frame

variable (ctx : SubscriberContext) (db : Database) (env : Env)

/-- A notification changes the list of published messages only. -/
theorem sendNotification_frame : ∃ published, (ctx.sendNotification env).1
    = { ctx with rt := { ctx.rt with published } } := by
  unfold sendNotification
  cases PgInstanceNotification.new ctx.status ctx.config.patroni_url env.settings with
  | none => exact ⟨ctx.rt.published, rfl⟩
  | some notification =>
    dsimp only
    split_ifs
    · exact ⟨_, rfl⟩
    · exact ⟨ctx.rt.published, rfl⟩

/-- A demotion drops the whole map and sets the status. -/
theorem checkMigration_demotion (hstatus : ctx.status = .master) (hrole : env.role = .replica) :
    ∃ published, (ctx.checkMigration db env).1 = { ctx with
      status := .replica
      nats := (ctx.nats.unsubscribeAll ctx.rt).2.1
      rt := { (ctx.nats.unsubscribeAll ctx.rt).2.2 with published } } := by
  unfold checkMigration
  rw [hstatus, hrole]
  exact sendNotification_frame _ env

/-- A promotion queues the stored subscriptions and sets the status. -/
theorem checkMigration_promotion (hstatus : ctx.status = .replica) (hrole : env.role = .master) :
    ∃ published, (ctx.checkMigration db env).1 = { ctx with
      status := .master
      sender := ctx.sender ++ if env.selected then
        db.subscriptions.map fun row => InternalWorkerMessage.subscribe false row.1 row.2 else []
      rt := { ctx.rt with published } } := by
  unfold checkMigration restoreState fetchSubjectWithCallbacks
  rw [hstatus, hrole]
  dsimp only
  cases hselected : env.selected with
  | true => exact sendNotification_frame _ env
  | false => exact ⟨ctx.rt.published, by simp⟩

/-- Without a role change, nothing happens. -/
theorem checkMigration_same (h : ctx.status = env.role) :
    ctx.checkMigration db env = (ctx, .ok ()) := by
  unfold checkMigration
  rw [← h]
  cases ctx.status <;> rfl

/-- The two ways in which the role can have changed. -/
theorem role_changed {ctx : SubscriberContext} {env : Env} (hchange : ctx.status ≠ env.role) :
    (ctx.status = .master ∧ env.role = .replica) ∨
      (ctx.status = .replica ∧ env.role = .master) := by
  cases hstatus : ctx.status <;> cases hrole : env.role
  · exact absurd (hstatus.trans hrole.symm) hchange
  · exact Or.inl ⟨rfl, rfl⟩
  · exact Or.inr ⟨rfl, rfl⟩
  · exact absurd (hstatus.trans hrole.symm) hchange

/-- All that the check of the role can do. -/
theorem checkMigration_cases :
    (ctx.status = env.role ∧ (ctx.checkMigration db env).1 = ctx) ∨
      (ctx.status = .master ∧ env.role = .replica ∧ ∃ published,
        (ctx.checkMigration db env).1 = { ctx with
          status := .replica
          nats := (ctx.nats.unsubscribeAll ctx.rt).2.1
          rt := { (ctx.nats.unsubscribeAll ctx.rt).2.2 with published } }) ∨
      (ctx.status = .replica ∧ env.role = .master ∧ ∃ published,
        (ctx.checkMigration db env).1 = { ctx with
          status := .master
          sender := ctx.sender ++ if env.selected then
            db.subscriptions.map fun row => InternalWorkerMessage.subscribe false row.1 row.2
            else []
          rt := { ctx.rt with published } }) := by
  rcases eq_or_ne ctx.status env.role with hsame | hchange
  · exact Or.inl ⟨hsame, by rw [checkMigration_same ctx db env hsame]⟩
  · rcases role_changed hchange with ⟨hstatus, hrole⟩ | ⟨hstatus, hrole⟩
    · exact Or.inr (Or.inl ⟨hstatus, hrole, checkMigration_demotion ctx db env hstatus hrole⟩)
    · exact Or.inr (Or.inr ⟨hstatus, hrole, checkMigration_promotion ctx db env hstatus hrole⟩)

/-- A connection that fails leaves everything as it was. -/
theorem applyConfig_failed {ctx : SubscriberContext} {config : Config}
    (hopt : ctx.config.nats_opt ≠ config.nats_opt) :
    ctx.applyConfig config false = (ctx, .error ()) := by
  unfold applyConfig NatsConnectionState.reconnectNats
  rw [if_pos hopt, if_neg Bool.false_ne_true]

/-- A configuration with the options in use needs no connection. -/
theorem applyConfig_same {ctx : SubscriberContext} {config : Config}
    (hopt : ctx.config.nats_opt = config.nats_opt) (connected : Bool) :
    ctx.applyConfig config connected = ({ ctx with config }, .ok ()) := by
  unfold applyConfig
  rw [if_neg (not_not.mpr hopt)]

/-- A connection that is made is used from then on, by the handlers too, and the configuration is
stored. -/
theorem applyConfig_connected {ctx : SubscriberContext} {config : Config}
    (hopt : ctx.config.nats_opt ≠ config.nats_opt) :
    ctx.applyConfig config true = ({ ctx with
      config
      nats := (ctx.nats.reconnectNats config.nats_opt ctx.rt true).1
      rt := (ctx.nats.reconnectNats config.nats_opt ctx.rt true).2.1 }, .ok ()) := by
  unfold applyConfig
  rw [if_pos hopt]
  rfl

/-- All that a new configuration can do. -/
theorem applyConfig_cases (config : Config) (connected : Bool) :
    (ctx.config.nats_opt = config.nats_opt ∧
        ctx.applyConfig config connected = ({ ctx with config }, .ok ())) ∨
      (ctx.config.nats_opt ≠ config.nats_opt ∧ connected = false ∧
        ctx.applyConfig config connected = (ctx, .error ())) ∨
      (ctx.config.nats_opt ≠ config.nats_opt ∧ connected = true ∧
        ctx.applyConfig config connected = ({ ctx with
          config
          nats := (ctx.nats.reconnectNats config.nats_opt ctx.rt true).1
          rt := (ctx.nats.reconnectNats config.nats_opt ctx.rt true).2.1 }, .ok ())) := by
  by_cases hopt : ctx.config.nats_opt = config.nats_opt
  · exact Or.inl ⟨hopt, applyConfig_same hopt connected⟩
  · cases connected with
    | false => exact Or.inr (Or.inl ⟨hopt, rfl, applyConfig_failed hopt⟩)
    | true => exact Or.inr (Or.inr ⟨hopt, rfl, applyConfig_connected hopt⟩)

/-- A new configuration changes no registered function, no message of the channel, and no role. -/
theorem applyConfig_frame (config : Config) (connected : Bool) :
    (ctx.applyConfig config connected).1.sender = ctx.sender ∧
      (ctx.applyConfig config connected).1.status = ctx.status ∧
      ∀ s f, (ctx.applyConfig config connected).1.nats.Registered s f ↔
        ctx.nats.Registered s f := by
  rcases ctx.applyConfig_cases config connected with ⟨-, happly⟩ | ⟨-, -, happly⟩ | ⟨-, -, happly⟩
  · rw [happly]
    exact ⟨rfl, rfl, fun _ _ => Iff.rfl⟩
  · rw [happly]
    exact ⟨rfl, rfl, fun _ _ => Iff.rfl⟩
  · rw [happly]
    exact ⟨rfl, rfl, fun _ _ => NatsConnectionState.registered_reconnectNats⟩

/-- A role change keeps the configuration. -/
theorem checkMigration_config : (ctx.checkMigration db env).1.config = ctx.config := by
  rcases ctx.checkMigration_cases db env with
    ⟨-, hctx⟩ | ⟨-, -, published, hctx⟩ | ⟨-, -, published, hctx⟩
  · rw [hctx]
  · rw [hctx]
  · rw [hctx]

/-- The check of the role puts restored rows into the channel, and nothing else. -/
theorem restores_checkMigration :
    Restores db ctx.sender (ctx.checkMigration db env).1.sender := by
  rcases ctx.checkMigration_cases db env with
    ⟨-, hctx⟩ | ⟨-, -, published, hctx⟩ | ⟨-, -, published, hctx⟩
  · rw [hctx]
    exact Restores.none db ctx.sender
  · rw [hctx]
    exact Restores.none db ctx.sender
  · rw [hctx]
    cases env.selected with
    | false => exact ⟨[], fun _ h => absurd h List.not_mem_nil, rfl⟩
    | true => exact ⟨db.subscriptions, fun _ h => h, rfl⟩

/-- A new configuration is in use afterwards, when the connection that it needs succeeds. -/
theorem applyConfig_config (config : Config) : (ctx.applyConfig config true).1.config = config := by
  unfold applyConfig
  split_ifs with hopt
  · rfl
  · rfl

end Frame

end SubscriberContext

end PgNats
