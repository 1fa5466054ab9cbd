import PgNats.Subscriber.Handlers

/-!
# New configurations

`apply_config` connects again when the options of the connection have changed, and stores the
configuration only after the connection is made. `Opened` is the invariant that the client in use
was opened with the options of the stored configuration, and `applyConfig_atomic` says what a call
does in any state that the main loop reaches.

The main loop applies the configurations among the messages of the shared memory queue at once, but
hands the requests to the internal channel, which it reads after the queue. `pass` is what it does
with a batch, and `batch_eq_one_by_one` says that the result is that of the messages taken one by
one: a configuration and a request act on different parts of the state (`View`), and neither looks
at the part of the other.
-/

namespace PgNats

namespace NatsConnectionState

variable {nats : NatsConnectionState} {rt : Runtime} {subject fn_name : String}

/-- `subscribe` adds the function to its subject. -/
theorem subscribe_funcs (s : String) :
    ((nats.subscribe subject fn_name rt).1.subscriptions.lookup s).map NatsSubscription.funcs =
      Function.update
        (fun s => (nats.subscriptions.lookup s).map NatsSubscription.funcs) subject
        (some (((nats.subscriptions.lookup subject).map NatsSubscription.funcs).elim
          (HashSet.singleton fn_name) fun funcs => funcs.insert fn_name)) s := by
  unfold subscribe
  cases hlook : nats.subscriptions.lookup subject with
  | none =>
    dsimp only
    rcases eq_or_ne s subject with rfl | hne
    · rw [AList.lookup_insert, Function.update_self]
      rfl
    · rw [AList.lookup_insert_ne hne, Function.update_of_ne hne]
  | some sub =>
    dsimp only
    rcases eq_or_ne s subject with rfl | hne
    · rw [AList.lookup_insert, Function.update_self]
      rfl
    · rw [AList.lookup_insert_ne hne, Function.update_of_ne hne]

/-- `unsubscribe` removes the function from its subject, and the subject with the last one. -/
theorem unsubscribe_funcs (s : String) :
    ((nats.unsubscribe subject fn_name rt).1.subscriptions.lookup s).map NatsSubscription.funcs =
      Function.update
        (fun s => (nats.subscriptions.lookup s).map NatsSubscription.funcs) subject
        (((nats.subscriptions.lookup subject).map NatsSubscription.funcs).bind fun funcs =>
          if (funcs.remove fn_name).isEmpty then none else some (funcs.remove fn_name)) s := by
  unfold unsubscribe
  cases hlook : nats.subscriptions.lookup subject with
  | none =>
    rcases eq_or_ne s subject with rfl | hne
    · rw [Function.update_self, hlook]
      rfl
    · rw [Function.update_of_ne hne]
  | some sub =>
    dsimp only [Option.map_some, Option.bind_some]
    rcases eq_or_ne s subject with rfl | hne
    · rw [Function.update_self]
      split_ifs
      · rw [AList.lookup_erase]
        rfl
      · rw [AList.lookup_insert]
        rfl
    · rw [Function.update_of_ne hne]
      split_ifs
      · rw [AList.lookup_erase_ne hne]
      · rw [AList.lookup_insert_ne hne]

end NatsConnectionState

namespace SubscriberContext

variable {ctx : SubscriberContext} {db : Database}

/-- The client in use was opened with the options of the stored configuration. -/
def Opened (ctx : SubscriberContext) : Prop := ctx.nats.client.opts = ctx.config.nats_opt

/-- A call that returns an error has changed nothing, and its connection has failed. -/
theorem applyConfig_error {config : Config} {connected : Bool}
    (h : (ctx.applyConfig config connected).2 = .error ()) :
    ctx.config.nats_opt ≠ config.nats_opt ∧ connected = false ∧
      (ctx.applyConfig config connected).1 = ctx := by
  rcases ctx.applyConfig_cases config connected with
    ⟨-, happly⟩ | ⟨hopt, hfailed, happly⟩ | ⟨-, -, happly⟩
  · rw [happly] at h
    exact absurd h (by simp)
  · exact ⟨hopt, hfailed, by rw [happly]⟩
  · rw [happly] at h
    exact absurd h (by simp)

/-- A call that returns `Ok` stores the configuration, and the client in use was opened with it, if
it was opened with the stored one before. -/
theorem applyConfig_ok (hopened : ctx.Opened) {config : Config} {connected : Bool}
    (h : (ctx.applyConfig config connected).2 = .ok ()) :
    (ctx.applyConfig config connected).1.config = config ∧
      (ctx.applyConfig config connected).1.nats.client.opts = config.nats_opt := by
  rcases ctx.applyConfig_cases config connected with
    ⟨hopt, happly⟩ | ⟨-, -, happly⟩ | ⟨-, -, happly⟩
  · rw [happly]
    exact ⟨rfl, hopened.trans hopt⟩
  · rw [happly] at h
    exact absurd h (by simp)
  · rw [happly]
    exact ⟨rfl, rfl⟩

/-- No call changes a function set. -/
theorem applyConfig_funcs (config : Config) (connected : Bool) (subject : String) :
    ((ctx.applyConfig config connected).1.nats.subscriptions.lookup subject).map
        NatsSubscription.funcs =
      (ctx.nats.subscriptions.lookup subject).map NatsSubscription.funcs := by
  rcases ctx.applyConfig_cases config connected with ⟨-, happly⟩ | ⟨-, -, happly⟩ | ⟨-, -, happly⟩
  · rw [happly]
  · rw [happly]
  · rw [happly]
    exact NatsConnectionState.funcs_reconnectNats

/-- A new configuration keeps the client opened with the stored one. -/
theorem opened_applyConfig (h : ctx.Opened) (config : Config) (connected : Bool) :
    (ctx.applyConfig config connected).1.Opened := by
  cases hresult : (ctx.applyConfig config connected).2 with
  | ok _ =>
    obtain ⟨hconfig, hclient⟩ := applyConfig_ok h hresult
    exact hclient.trans (congrArg Config.nats_opt hconfig).symm
  | error _ =>
    rw [(applyConfig_error hresult).2.2]
    exact h

/-- The check of the role changes neither the client nor the configuration. -/
theorem opened_checkMigration (h : ctx.Opened) (env : Env) :
    (ctx.checkMigration db env).1.Opened := by
  have hclient : (ctx.checkMigration db env).1.nats.client = ctx.nats.client := by
    rcases ctx.checkMigration_cases db env with
      ⟨-, hctx⟩ | ⟨-, -, published, hctx⟩ | ⟨-, -, published, hctx⟩
    · rw [hctx]
    · rw [hctx]
      rfl
    · rw [hctx]
  unfold Opened
  rw [hclient, checkMigration_config]
  exact h

/-- A message of the channel changes neither the client nor the configuration. -/
theorem opened_handleInternalMessage (h : ctx.Opened) (outcome : String → Except CallError Unit)
    (msg : InternalWorkerMessage) : (handleInternalMessage ctx db outcome msg).1.Opened := by
  unfold Opened at h ⊢
  cases msg with
  | subscribe register subject fn_name =>
    show (ctx.nats.subscribe subject fn_name ctx.rt).1.client.opts = _
    rw [NatsConnectionState.subscribe_frame.1]
    exact h
  | unsubscribe subject fn_name =>
    show (ctx.nats.unsubscribe subject fn_name ctx.rt).1.client.opts = _
    rw [NatsConnectionState.unsubscribe_frame.1]
    exact h
  | callbackCall subject data =>
    show (ctx.nats.runCallbacks subject data _ db).1.client.opts = _
    rw [NatsConnectionState.runCallbacks_client]
    exact h
  | unsubscribeSubject subject reason =>
    show (ctx.nats.unsubscribeSubject subject ctx.rt).1.client.opts = _
    rw [NatsConnectionState.unsubscribeSubject_frame.1]
    exact h

/-- What `apply_config` does with a configuration. -/
structure AppliesAtomically (ctx : SubscriberContext) (config : Config) (connected : Bool) :
    Prop where
  /-- When the connection that it needs fails, it returns an error. -/
  failed : ctx.config.nats_opt ≠ config.nats_opt → connected = false →
    (ctx.applyConfig config connected).2 = .error ()
  /-- When it returns an error, nothing has changed. -/
  unchanged : (ctx.applyConfig config connected).2 = .error () →
    (ctx.applyConfig config connected).1 = ctx
  /-- When it returns `Ok`, the configuration is stored, and the client in use was opened with
  it. -/
  stored : (ctx.applyConfig config connected).2 = .ok () →
    (ctx.applyConfig config connected).1.config = config ∧
      (ctx.applyConfig config connected).1.nats.client.opts = config.nats_opt
  /-- The subjects have the functions that they had. -/
  funcs : ∀ subject,
    ((ctx.applyConfig config connected).1.nats.subscriptions.lookup subject).map
        NatsSubscription.funcs =
      (ctx.nats.subscriptions.lookup subject).map NatsSubscription.funcs
  /-- Each subject's handler runs on the client in use, and no other task does. -/
  handlers : (ctx.applyConfig config connected).1.Handlers
  /-- After an error, the configuration is tried again whenever it comes again: the outcome is that
  of the new connection. -/
  retried : (ctx.applyConfig config connected).2 = .error () →
    ∀ later : SubscriberContext, later.config = (ctx.applyConfig config connected).1.config →
      (later.applyConfig config false).2 = .error () ∧
        (later.applyConfig config true).2 = .ok () ∧
        (later.applyConfig config true).1.nats.client =
          { id := later.rt.connections, opts := config.nats_opt }

/-- A context with its handlers and with a client for its configuration applies a configuration
atomically. -/
theorem appliesAtomically (hopened : ctx.Opened) (hhandlers : ctx.Handlers) (config : Config)
    (connected : Bool) : ctx.AppliesAtomically config connected where
  failed := by
    rintro hopt rfl
    rw [applyConfig_failed hopt]
  unchanged h := (applyConfig_error h).2.2
  stored h := applyConfig_ok hopened h
  funcs := applyConfig_funcs config connected
  handlers := handlers_applyConfig hhandlers config connected
  retried := by
    intro h later hlater
    obtain ⟨hopt, -, hsame⟩ := applyConfig_error h
    rw [hsame] at hlater
    have hopt' : later.config.nats_opt ≠ config.nats_opt := by
      rw [hlater]
      exact hopt
    refine ⟨by rw [applyConfig_failed hopt'], by rw [applyConfig_connected hopt'], ?_⟩
    rw [applyConfig_connected hopt']
    rfl

end SubscriberContext

namespace Subscriber

/-- A new process has opened its client with its configuration. -/
theorem opened_start (db : Database) (handled : List Request) (config : Config) (env : Env) :
    (start db handled config env).ctx.Opened := by
  obtain ⟨published, hstart⟩ := start_eq db handled config env
  rw [hstart]
  rfl

/-- Every step keeps the client opened with the stored configuration. -/
theorem opened_step {s s' : Subscriber} {e : Event} (h : s.ctx.Opened)
    (hstep : step s e = some s') : s'.ctx.Opened := by
  cases transition_of_step hstep with
  | deliver msg hlive => exact h
  | report hlive htask => exact h
  | wake hphase => exact SubscriberContext.opened_checkMigration h _
  | @sharedRecv connected msg recv hphase hrecv =>
    cases msg with
    | newConfig config => exact SubscriberContext.opened_applyConfig h config connected
    | subscribe subject fn_name => exact h
    | unsubscribe subject fn_name => exact h
  | sharedEmpty hphase => exact h
  | @internalRecv outcome msg rest hphase hsender =>
    unfold internal
    dsimp only
    split_ifs
    · exact h
    · exact SubscriberContext.opened_handleInternalMessage
        (show SubscriberContext.Opened { s.ctx with sender := rest } from h) outcome msg
  | internalEmpty hphase hsender => exact h
  | exit result hcause => exact h
  | restart config env => exact opened_start _ _ _ _

/-- In every state that the main loop reaches, the client in use was opened with the options of the
stored configuration, and every configuration is applied atomically. -/
theorem applyConfig_atomic (db : Database) (config₀ : Config) (env : Env) {es : List Event}
    {s : Subscriber} (hrun : Run.run step (start db [] config₀ env) es = some s) (config : Config)
    (connected : Bool) :
    s.ctx.nats.client.opts = s.ctx.config.nats_opt ∧
      s.ctx.AppliesAtomically config connected := by
  have hopened : s.ctx.Opened :=
    Run.run_invariant_of_step (fun _ _ _ => opened_step) (opened_start db [] config₀ env) hrun
  have hhandlers : s.ctx.Handlers :=
    Run.run_invariant_of_step (fun _ _ _ => handlers_step) (handlers_start db [] config₀ env) hrun
  exact ⟨hopened, SubscriberContext.appliesAtomically hopened hhandlers config connected⟩

/-- A master whose first attempt with a new port has failed, with a subscribed subject. -/
theorem applyConfig_after_failure :
    ∃ s, Run.run step
        (start ⟨[("a", "f")], []⟩ [] (validatorConfig []) ⟨.master, true, ⟨none, none, id⟩, true⟩)
        [.wake .exist ⟨.master, true, ⟨none, none, id⟩, true⟩, .sharedEmpty,
          .internalRecv fun _ => .ok (), .internalEmpty,
          .wake .exist ⟨.master, true, ⟨none, none, id⟩, true⟩,
          .deliver (.newConfig (validatorConfig ["port=4223"])), .sharedRecv false] = some s ∧
      s.ctx.nats.Registered "a" "f" ∧
      s.ctx.AppliesAtomically (validatorConfig ["port=4223"]) true := by
  obtain ⟨s, hrun, hreg⟩ : ∃ s, Run.run step
      (start ⟨[("a", "f")], []⟩ [] (validatorConfig []) ⟨.master, true, ⟨none, none, id⟩, true⟩)
      [.wake .exist ⟨.master, true, ⟨none, none, id⟩, true⟩, .sharedEmpty,
        .internalRecv fun _ => .ok (), .internalEmpty,
        .wake .exist ⟨.master, true, ⟨none, none, id⟩, true⟩,
        .deliver (.newConfig (validatorConfig ["port=4223"])), .sharedRecv false] = some s ∧
      s.ctx.nats.Registered "a" "f" := ⟨_, rfl, _, rfl, by decide⟩
  exact ⟨s, hrun, hreg, (applyConfig_atomic _ _ _ hrun _ _).2⟩

end Subscriber

/-! ## Batches -/

/-- The request that a message of the queue puts into the channel. -/
def SubscriberMessage.internal? : SubscriberMessage → Option InternalWorkerMessage
  | .newConfig _ => none
  | .subscribe subject fn_name => some (.subscribe true subject fn_name)
  | .unsubscribe subject fn_name => some (.unsubscribe subject fn_name)

/-- Whether the connection that a message asks for is made, when that depends on the options
only. -/
def connectsFor (connects : NatsConnectionOptions → Bool) : SubscriberMessage → Bool
  | .newConfig config => connects config.nats_opt
  | _ => true

/-- The loop over the shared memory queue. -/
def receive (connects : NatsConnectionOptions → Bool) (ctx : SubscriberContext)
    (msgs : List SubscriberMessage) : SubscriberContext :=
  msgs.foldl (fun ctx msg => handleMessageFromSharedQueue ctx (connectsFor connects msg) msg) ctx

/-- The loop over the internal channel, which holds these messages. -/
def drain (outcome : String → Except CallError Unit) :
    List InternalWorkerMessage → SubscriberContext → Database → SubscriberContext × Database
  | [], ctx, db => (ctx, db)
  | msg :: rest, ctx, db =>
    let ctx := { ctx with sender := rest }
    if ctx.isReplica then drain outcome rest ctx db
    else
      let (ctx, db) := handleInternalMessage ctx db outcome msg
      drain outcome rest ctx db

/-- What a pass of the main loop does with a batch of messages: first the queue, then the
channel. -/
def pass (connects : NatsConnectionOptions → Bool) (outcome : String → Except CallError Unit)
    (s : SubscriberContext × Database) (msgs : List SubscriberMessage) :
    SubscriberContext × Database :=
  let ctx := receive connects s.1 msgs
  drain outcome ctx.sender ctx s.2

/-- The part of a context and its database that configurations and requests act on. The handlers
are left out, but not the client that they run on. -/
@[ext] structure View where
  /-- The stored configuration. -/
  config : Config
  /-- The client in use. -/
  client : Client
  /-- How many clients have been opened. -/
  connections : ℕ
  /-- The role. -/
  status : PgInstanceStatus
  /-- The functions of each subject in the map. -/
  funcs : String → Option (HashSet String)
  /-- The database. -/
  db : Database

/-- The view of a context and its database. -/
def view (s : SubscriberContext × Database) : View where
  config := s.1.config
  client := s.1.nats.client
  connections := s.1.rt.connections
  status := s.1.status
  funcs subject := (s.1.nats.subscriptions.lookup subject).map NatsSubscription.funcs
  db := s.2

namespace View

/-- A new configuration opens a client when its options are new, and is stored unless that
fails. -/
def configure (connects : NatsConnectionOptions → Bool) (v : View) : SubscriberMessage → View
  | .newConfig config =>
    if v.config.nats_opt ≠ config.nats_opt then
      if connects config.nats_opt then
        { v with
          config
          client := { id := v.connections, opts := config.nats_opt }
          connections := v.connections + 1 }
      else v
    else { v with config }
  | _ => v

/-- A request changes the functions of its subject and its row, on a master. -/
def request (v : View) : SubscriberMessage → View
  | .newConfig _ => v
  | .subscribe subject fn_name =>
    if v.status = .master then
      { v with
        funcs := Function.update v.funcs subject (some ((v.funcs subject).elim
          (HashSet.singleton fn_name) fun funcs => funcs.insert fn_name))
        db := (insertSubjectCallback v.db subject fn_name).1 }
    else v
  | .unsubscribe subject fn_name =>
    if v.status = .master then
      { v with
        funcs := Function.update v.funcs subject ((v.funcs subject).bind fun funcs =>
          if (funcs.remove fn_name).isEmpty then none else some (funcs.remove fn_name))
        db := (deleteSubjectCallback v.db subject fn_name).1 }
    else v

/-- A configuration and a request act on different parts. -/
theorem configure_request (connects : NatsConnectionOptions → Bool) (v : View)
    (msg msg' : SubscriberMessage) :
    (v.request msg).configure connects msg' = (v.configure connects msg').request msg := by
  cases msg' with
  | newConfig config =>
    cases msg <;> unfold configure request <;> dsimp only <;> split_ifs <;> rfl
  | subscribe subject fn_name => rfl
  | unsubscribe subject fn_name => rfl

end View

section View

variable {connects : NatsConnectionOptions → Bool} {ctx : SubscriberContext} {db : Database}

/-- A message of the queue acts on the view as a configuration: a request is only queued. -/
theorem view_handleMessageFromSharedQueue (msg : SubscriberMessage) :
    view (handleMessageFromSharedQueue ctx (connectsFor connects msg) msg, db) =
      (view (ctx, db)).configure connects msg := by
  cases msg with
  | subscribe subject fn_name => rfl
  | unsubscribe subject fn_name => rfl
  | newConfig config =>
    show view ((ctx.applyConfig config (connects config.nats_opt)).1, db) = _
    unfold View.configure
    dsimp only
    by_cases hopt : ctx.config.nats_opt = config.nats_opt
    · rw [SubscriberContext.applyConfig_same hopt]
      exact (if_neg (not_not.mpr hopt)).symm
    · rw [if_pos (show (view (ctx, db)).config.nats_opt ≠ _ from hopt)]
      cases connects config.nats_opt with
      | false =>
        rw [SubscriberContext.applyConfig_failed hopt]
        rfl
      | true =>
        have hfuncs := funext (ctx.applyConfig_funcs config true)
        rw [SubscriberContext.applyConfig_connected hopt] at hfuncs ⊢
        exact View.ext rfl rfl NatsConnectionState.reconnectNats_frame.1 rfl hfuncs rfl

/-- A request of the channel acts on the view, on a master. -/
theorem view_handleInternalMessage {outcome : String → Except CallError Unit}
    {msg : SubscriberMessage} {request : InternalWorkerMessage}
    (hrequest : msg.internal? = some request) (hmaster : ctx.status = .master) :
    view (handleInternalMessage ctx db outcome request) = (view (ctx, db)).request msg := by
  have hview : (view (ctx, db)).status = .master := hmaster
  cases msg with
  | newConfig config => exact absurd hrequest (by simp [SubscriberMessage.internal?])
  | subscribe subject fn_name =>
    obtain rfl := Option.some.inj hrequest
    unfold View.request
    dsimp only
    rw [if_pos hview]
    exact View.ext rfl NatsConnectionState.subscribe_frame.1
      NatsConnectionState.subscribe_frame.2.1 rfl
      (funext NatsConnectionState.subscribe_funcs) rfl
  | unsubscribe subject fn_name =>
    obtain rfl := Option.some.inj hrequest
    unfold View.request
    dsimp only
    rw [if_pos hview]
    exact View.ext rfl NatsConnectionState.unsubscribe_frame.1
      NatsConnectionState.unsubscribe_frame.2.1 rfl
      (funext NatsConnectionState.unsubscribe_funcs) rfl

/-- A request that a replica takes off its channel is dropped. -/
theorem view_request_replica (hreplica : ctx.status = .replica) (msg : SubscriberMessage) :
    (view (ctx, db)).request msg = view (ctx, db) := by
  have hview : (view (ctx, db)).status ≠ .master := by
    show ctx.status ≠ .master
    rw [hreplica]
    simp
  cases msg with
  | newConfig config => rfl
  | subscribe subject fn_name => exact if_neg hview
  | unsubscribe subject fn_name => exact if_neg hview

/-- The loop over the queue configures the view, and queues the requests. -/
theorem view_receive (connects : NatsConnectionOptions → Bool) (ctx : SubscriberContext)
    (db : Database) (msgs : List SubscriberMessage) :
    view (receive connects ctx msgs, db) =
        msgs.foldl (View.configure connects) (view (ctx, db)) ∧
      (receive connects ctx msgs).sender =
        ctx.sender ++ msgs.filterMap SubscriberMessage.internal? := by
  induction msgs generalizing ctx with
  | nil => exact ⟨rfl, (List.append_nil _).symm⟩
  | cons msg msgs ih =>
    obtain ⟨hview, hsender⟩ :=
      ih (handleMessageFromSharedQueue ctx (connectsFor connects msg) msg)
    have hstep : (handleMessageFromSharedQueue ctx (connectsFor connects msg) msg).sender =
        ctx.sender ++ msg.internal?.toList := by
      cases msg with
      | newConfig config =>
        exact (ctx.applyConfig_frame config _).1.trans (List.append_nil _).symm
      | subscribe subject fn_name => rfl
      | unsubscribe subject fn_name => rfl
    refine ⟨hview.trans ?_, hsender.trans ?_⟩
    · rw [view_handleMessageFromSharedQueue, List.foldl_cons]
    · rw [hstep, List.append_assoc, List.filterMap_cons]
      cases msg.internal? <;> rfl

/-- The loop over the channel handles the requests and leaves the channel empty. -/
theorem view_drain (outcome : String → Except CallError Unit) (msgs : List SubscriberMessage)
    (ctx : SubscriberContext) (db : Database)
    (hsender : ctx.sender = msgs.filterMap SubscriberMessage.internal?) :
    view (drain outcome (msgs.filterMap SubscriberMessage.internal?) ctx db) =
        msgs.foldl View.request (view (ctx, db)) ∧
      (drain outcome (msgs.filterMap SubscriberMessage.internal?) ctx db).1.sender = [] := by
  induction msgs generalizing ctx db with
  | nil => exact ⟨rfl, hsender⟩
  | cons msg msgs ih =>
    rw [List.filterMap_cons] at hsender ⊢
    rw [List.foldl_cons]
    cases hrequest : msg.internal? with
    | none =>
      -- A configuration has put nothing into the channel.
      rw [hrequest] at hsender
      cases msg with
      | newConfig config => exact ih ctx db hsender
      | subscribe subject fn_name => exact absurd hrequest (by simp [SubscriberMessage.internal?])
      | unsubscribe subject fn_name => exact absurd hrequest (by simp [SubscriberMessage.internal?])
    | some request =>
      unfold drain
      dsimp only
      generalize hrest : msgs.filterMap SubscriberMessage.internal? = rest at ih ⊢
      split_ifs with hreplica
      -- A replica takes the request off the channel and forgets it.
      · have hstatus : ctx.status = .replica := beq_iff_eq.mp hreplica
        rw [view_request_replica hstatus msg]
        exact ih { ctx with sender := rest } db rfl
      · have hmaster : ctx.status = .master :=
          PgInstanceStatus.ne_replica.mp fun hstatus => hreplica (beq_iff_eq.mpr hstatus)
        have hkeep : (handleInternalMessage { ctx with sender := rest } db outcome request).1.sender
            = rest := handleInternalMessage_sender _ _ _ _
        have hmsg : view (handleInternalMessage { ctx with sender := rest } db outcome request) =
            (view (ctx, db)).request msg := view_handleInternalMessage hrequest hmaster
        rw [← hmsg]
        exact ih _ _ hkeep

/-- A pass configures the view and then handles the requests, which is the same as one message
after the other. -/
theorem view_pass (connects : NatsConnectionOptions → Bool)
    (outcome : String → Except CallError Unit) (s : SubscriberContext × Database)
    (hsender : s.1.sender = []) (msgs : List SubscriberMessage) :
    view (pass connects outcome s msgs) =
        msgs.foldl (fun v msg => (v.configure connects msg).request msg) (view s) ∧
      (pass connects outcome s msgs).1.sender = [] := by
  obtain ⟨hreceive, hqueued⟩ := view_receive connects s.1 s.2 msgs
  rw [hsender, List.nil_append] at hqueued
  obtain ⟨hdrain, hempty⟩ := view_drain outcome msgs (receive connects s.1 msgs) s.2 hqueued
  unfold pass
  dsimp only
  rw [hqueued]
  refine ⟨?_, hempty⟩
  rw [hdrain, hreceive, Run.foldl_rounds (View.configure_request connects)]

/-- Messages taken one by one leave the view of their batch. -/
theorem view_one_by_one (connects : NatsConnectionOptions → Bool)
    (outcome : String → Except CallError Unit) (msgs : List SubscriberMessage)
    (s : SubscriberContext × Database) (hsender : s.1.sender = []) :
    view (msgs.foldl (fun s msg => pass connects outcome s [msg]) s) =
      msgs.foldl (fun v msg => (v.configure connects msg).request msg) (view s) := by
  induction msgs generalizing s with
  | nil => rfl
  | cons msg msgs ih =>
    -- The pass over the first message leaves the channel empty for the next one.
    obtain ⟨hview, hempty⟩ := view_pass connects outcome s hsender [msg]
    rw [List.foldl_cons, List.foldl_cons, ih _ hempty, hview]
    rfl

/-- A pass keeps the handlers. -/
theorem handlers_pass (connects : NatsConnectionOptions → Bool)
    (outcome : String → Except CallError Unit) (s : SubscriberContext × Database)
    (h : s.1.Handlers) (msgs : List SubscriberMessage) :
    (pass connects outcome s msgs).1.Handlers := by
  have hreceive : ∀ (msgs : List SubscriberMessage) (ctx : SubscriberContext), ctx.Handlers →
      (receive connects ctx msgs).Handlers := by
    intro msgs
    induction msgs with
    | nil => exact fun _ h => h
    | cons msg msgs ih =>
      exact fun _ h => ih _ (SubscriberContext.handlers_handleMessageFromSharedQueue h _ msg)
  have hdrain : ∀ (msgs : List InternalWorkerMessage) (ctx : SubscriberContext) (db : Database),
      ctx.Handlers → (drain outcome msgs ctx db).1.Handlers := by
    intro msgs
    induction msgs with
    | nil => exact fun _ _ h => h
    | cons msg rest ih =>
      intro ctx db h
      have hrest : SubscriberContext.Handlers { ctx with sender := rest } := h
      unfold drain
      dsimp only
      split_ifs
      · exact ih _ _ hrest
      · exact ih _ _ (SubscriberContext.handlers_handleInternalMessage hrest outcome msg)
  exact hdrain _ _ _ (hreceive msgs s.1 h)

/-- A pass over a batch leaves the configuration, the client, the functions of each subject, and the
table that its messages leave one by one, and the handlers fit the map in both cases, as they do in
every state that the main loop reaches. -/
theorem batch_eq_one_by_one (connects : NatsConnectionOptions → Bool)
    (outcome : String → Except CallError Unit) (s : SubscriberContext × Database)
    (hsender : s.1.sender = []) (msgs : List SubscriberMessage) :
    view (pass connects outcome s msgs) =
        view (msgs.foldl (fun s msg => pass connects outcome s [msg]) s) ∧
      (s.1.Handlers → (pass connects outcome s msgs).1.Handlers ∧
        (msgs.foldl (fun s msg => pass connects outcome s [msg]) s).1.Handlers) := by
  refine ⟨?_, fun h => ⟨handlers_pass connects outcome s h msgs, ?_⟩⟩
  · rw [(view_pass connects outcome s hsender msgs).1,
      view_one_by_one connects outcome msgs s hsender]
  · clear hsender
    induction msgs generalizing s with
    | nil => exact h
    | cons msg msgs ih => exact ih _ (handlers_pass connects outcome s h [msg])

/-- A master without subscriptions. -/
def noSubscriptions : SubscriberContext × Database :=
  let s := Subscriber.start ⟨[], []⟩ [] (validatorConfig []) ⟨.master, true, ⟨none, none, id⟩, true⟩
  (s.ctx, s.db)

/-- A batch with two configurations between requests, the second of which fails. -/
theorem batch_with_configurations :
    ∃ s : SubscriberContext × Database,
      s.1.nats.client = { id := 1, opts := (validatorConfig ["port=4223"]).nats_opt } ∧
      s.1.Handlers ∧ view s = view ([SubscriberMessage.subscribe "a" "f",
        .newConfig (validatorConfig ["port=4223"]), .subscribe "b" "g", .unsubscribe "a" "f",
        .newConfig (validatorConfig ["port=4224"])].foldl
          (fun s msg => pass (fun opts => opts.port = 4223) (fun _ => .ok ()) s [msg])
          noSubscriptions) := by
  obtain ⟨hview, hhandlers⟩ := batch_eq_one_by_one (fun opts => opts.port = 4223) (fun _ => .ok ())
    noSubscriptions rfl [.subscribe "a" "f", .newConfig (validatorConfig ["port=4223"]),
      .subscribe "b" "g", .unsubscribe "a" "f", .newConfig (validatorConfig ["port=4224"])]
  exact ⟨_, rfl, (hhandlers (Subscriber.handlers_start _ [] _ _)).1, hview⟩

end View

/-! ## The batches of the main loop -/

namespace Subscriber

/-- The steps of the main loop over the queue are the loop over the queue. -/
theorem run_receive (connects : NatsConnectionOptions → Bool) {s : Subscriber}
    (hphase : s.phase = .shared) :
    Run.run step s (s.recv.map fun msg => .sharedRecv (connectsFor connects msg)) =
      some { s with recv := [], ctx := receive connects s.ctx s.recv } := by
  obtain ⟨phase, recv, ctx, db, handled⟩ := s
  obtain rfl : phase = .shared := hphase
  dsimp only
  induction recv generalizing ctx with
  | nil => rfl
  | cons msg recv ih =>
    rw [List.map_cons, Run.run_cons_eq_some]
    exact ⟨_, rfl, ih _⟩

/-- The steps of the main loop over the channel are the loop over the channel. -/
theorem run_drain (outcome : String → Except CallError Unit) {s : Subscriber}
    (hphase : s.phase = .internal) :
    ∃ handled, Run.run step s (List.replicate s.ctx.sender.length (.internalRecv outcome)) =
      some { s with
        ctx := (drain outcome s.ctx.sender s.ctx s.db).1
        db := (drain outcome s.ctx.sender s.ctx s.db).2
        handled } := by
  obtain ⟨phase, recv, ctx, db, handled⟩ := s
  obtain rfl : phase = .internal := hphase
  dsimp only
  generalize hsender : ctx.sender = sender
  induction sender generalizing ctx db handled with
  | nil => exact ⟨handled, rfl⟩
  | cons msg rest ih =>
    have hstep : step ⟨.internal, recv, ctx, db, handled⟩ (.internalRecv outcome) =
        some (internal ⟨.internal, recv, ctx, db, handled⟩ outcome msg rest) :=
      step_internalRecv rfl hsender outcome
    unfold internal at hstep
    unfold drain
    dsimp only at hstep ⊢
    rw [List.length_cons, List.replicate_succ, Run.run, hstep, Option.bind_some]
    split_ifs
    · exact ih { ctx with sender := rest } db handled rfl
    · refine ih _ _ _ ?_
      cases msg <;> rfl

/-- A pass of the main loop over a batch: the check of the role, then the two loops. -/
theorem run_pass (connects : NatsConnectionOptions → Bool)
    (outcome : String → Except CallError Unit) {s : Subscriber} (hphase : s.phase = .shared)
    (hsender : s.ctx.sender = []) :
    ∃ es handled, Run.run step s es = some { s with
      phase := .waiting
      recv := []
      ctx := (pass connects outcome (s.ctx, s.db) s.recv).1
      db := (pass connects outcome (s.ctx, s.db) s.recv).2
      handled } := by
  have hreceive := run_receive connects hphase
  have hempty := (view_pass connects outcome (s.ctx, s.db) hsender s.recv).2
  obtain ⟨phase, recv, ctx, db, handled₀⟩ := s
  obtain rfl : phase = .shared := hphase
  obtain ⟨handled, hdrain⟩ := run_drain outcome
    (s := ⟨.internal, [], receive connects ctx recv, db, handled₀⟩) rfl
  -- The loop over the queue, its end, the loop over the channel, and the end of the pass.
  refine ⟨recv.map (fun msg => .sharedRecv (connectsFor connects msg)) ++ .sharedEmpty ::
    (List.replicate (receive connects ctx recv).sender.length (.internalRecv outcome) ++
      [.internalEmpty]), handled, ?_⟩
  rw [Run.run_append, hreceive, Option.bind_some, Run.run]
  show Run.run step ⟨.internal, [], receive connects ctx recv, db, handled₀⟩ _ = _
  rw [Run.run_append, hdrain, Option.bind_some, Run.run]
  unfold step
  dsimp only
  rw [show (drain outcome _ _ db).1.sender = [] from hempty]
  rfl

end Subscriber

end PgNats
