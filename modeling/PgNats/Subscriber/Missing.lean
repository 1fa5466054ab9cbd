import PgNats.Subscriber.Agreement
import PgNats.Subscriber.Cleanup

/-!
# Missing functions

When a call reports that its function does not exist, `run_callbacks` takes the function out of the
map, and nothing else: the row stays in the table unless the event trigger of `DROP FUNCTION` has
deleted it. A row that stays is restored after the next restart or promotion, and the function that
was unregistered is registered again.

The steps here are those of the main loop and those of the trigger. `durable_iff` says when a
function that is found missing stays unregistered until it is subscribed again: when its row is gone
before the message is handled. Behind the message there may still be messages of `restore_state` in
the channel; `Ordered` is the invariant that they are all handled before a callback can be called.
-/

namespace PgNats

open Run (RunAll)
open NatsConnectionState (Registered)

namespace Missing

/-- What can happen to a subscriber and its table. -/
inductive Event where
  /-- A step of the subscriber. -/
  | process (e : Subscriber.Event)
  /-- A statement drops these objects, and the event trigger deletes rows. -/
  | drop (objs : List DroppedObject)

/-- One step, if it is possible. -/
def step (s : Subscriber) : Event → Option Subscriber
  | .process e => s.step e
  | .drop objs => some { s with db := cleanupSubscriptionsOnDrop s.db objs }

/-- Handling a message takes the function out of the subject's functions. -/
def Unregisters (s : Subscriber) (e : Event) (s' : Subscriber) (subject f : String) : Prop :=
  (∃ outcome data rest, e = .process (.internalRecv outcome) ∧
    s.ctx.sender = .callbackCall subject data :: rest) ∧
    s.ctx.nats.Registered subject f ∧ ¬ s'.ctx.nats.Registered subject f

/-- The step handles no `Subscribe` request for the pair. -/
def NoSubscribe (pair : String × String) (s : Subscriber) : Event → Prop
  | .process (.internalRecv _) =>
    s.ctx.status = .master → ∀ rest, s.ctx.sender ≠ .subscribe true pair.1 pair.2 :: rest
  | _ => True

/-- A function that a step unregisters has no row afterwards, and is not registered again before a
`Subscribe` for it is handled. -/
def Durable (s : Subscriber) (e : Event) (s' : Subscriber) : Prop :=
  ∀ subject f, Unregisters s e s' subject f →
    (subject, f) ∉ s'.db.subscriptions ∧
      ∀ es t, RunAll step (NoSubscribe (subject, f)) s' es → Run.run step s' es = some t →
        ¬ t.ctx.nats.Registered subject f

/-- The condition on a step: a registered function whose call finds it missing has no row. -/
def RowsGone (s : Subscriber) : Event → Prop
  | .process (.internalRecv outcome) =>
    s.phase = .internal → s.ctx.status = .master →
      ∀ subject data rest, s.ctx.sender = .callbackCall subject data :: rest →
        ∀ f, s.ctx.nats.Registered subject f → callable f = true → outcome f = .error .notFound →
          (subject, f) ∉ s.db.subscriptions
  | _ => True

/-! ## The messages of `restore_state` -/

/-- The message is one of `restore_state`. -/
def Restored (msg : InternalWorkerMessage) : Prop :=
  ∃ subject f, msg = .subscribe false subject f

/-- The message is one of a handler task. -/
def Reported (msg : InternalWorkerMessage) : Prop :=
  ∃ task result, msg = Subscriber.reported task result

/-- The messages of `restore_state` come first. -/
def RestoredFirst (msgs : List InternalWorkerMessage) : Prop :=
  msgs.Pairwise fun msg msg' => Restored msg' → Restored msg

/-- In the channel, the messages of `restore_state` come first, but for messages of aborted tasks
while no function is registered. -/
def InOrder (ctx : SubscriberContext) : Prop :=
  ∃ stale msgs, ctx.sender = stale ++ msgs ∧ (∀ msg ∈ stale, Reported msg) ∧ RestoredFirst msgs ∧
    (stale = [] ∨ ∀ subject f, ¬ ctx.nats.Registered subject f)

/-- The channel is in order, and stays so over a promotion. -/
structure Ordered (s : Subscriber) : Prop where
  /-- A replica has no subscribed subject. -/
  quiet : s.ctx.Quiet
  /-- The channel is in order. -/
  channel : InOrder s.ctx
  /-- Between two passes, a replica has only messages of tasks in its channel. -/
  waiting : s.ctx.status = .replica → s.phase = .waiting → ∀ msg ∈ s.ctx.sender, Reported msg

section InOrder

variable {ctx ctx' : SubscriberContext}

/-- A message that is not restored may follow. -/
theorem RestoredFirst.push {msgs : List InternalWorkerMessage} (h : RestoredFirst msgs)
    {msg : InternalWorkerMessage} (hmsg : ¬ Restored msg) : RestoredFirst (msgs ++ [msg]) := by
  refine List.pairwise_append.mpr ⟨h, List.pairwise_singleton _ _, ?_⟩
  intro before _ last hlast hrestored
  rw [List.mem_singleton.mp hlast] at hrestored
  exact absurd hrestored hmsg

/-- Restored rows alone are in order. -/
theorem restoredFirst_rows (rows : List (String × String)) : RestoredFirst
    (rows.map fun row => InternalWorkerMessage.subscribe false row.1 row.2) := by
  refine List.pairwise_map.mpr (List.pairwise_of_forall fun row _ _ => ?_)
  exact ⟨row.1, row.2, rfl⟩

/-- A message of a task is not restored. -/
theorem Reported.not_restored {msg : InternalWorkerMessage} (h : Reported msg) :
    ¬ Restored msg := by
  obtain ⟨task, result, rfl⟩ := h
  rintro ⟨subject, f, heq⟩
  cases result with
  | ok data => exact absurd heq (by simp [Subscriber.reported])
  | error reason => exact absurd heq (by simp [Subscriber.reported])

/-- Behind messages of aborted tasks, the restored rows are in order. -/
theorem inOrder_of_restores {db : Database} {before : List InternalWorkerMessage}
    (hbefore : ∀ msg ∈ before, Reported msg) (hnone : ∀ subject f, ¬ ctx.nats.Registered subject f)
    (hrestores : Restores db before ctx.sender) : InOrder ctx := by
  obtain ⟨rows, -, hsender⟩ := hrestores
  exact ⟨before, _, hsender, hbefore, restoredFirst_rows rows, Or.inr hnone⟩

/-- The order depends on the channel, and on there being no more functions than before. -/
theorem InOrder.mono (h : InOrder ctx) (hsender : ctx'.sender = ctx.sender)
    (hreg : ∀ subject f, ctx'.nats.Registered subject f → ctx.nats.Registered subject f) :
    InOrder ctx' := by
  obtain ⟨stale, msgs, hchannel, hstale, horder, hidle⟩ := h
  exact ⟨stale, msgs, hsender.trans hchannel, hstale, horder,
    hidle.imp_right fun hnone subject f hregistered => hnone subject f (hreg subject f hregistered)⟩

/-- A message that is not restored may come last. -/
theorem InOrder.push (h : InOrder ctx) {msg : InternalWorkerMessage} (hmsg : ¬ Restored msg) :
    InOrder { ctx with sender := ctx.sender ++ [msg] } := by
  obtain ⟨stale, msgs, hchannel, hstale, horder, hidle⟩ := h
  refine ⟨stale, msgs ++ [msg], ?_, hstale, horder.push hmsg, hidle⟩
  rw [hchannel, List.append_assoc]

/-- The first message may be handled, if a message of a task registers no function. -/
theorem InOrder.pop (h : InOrder ctx) {msg : InternalWorkerMessage}
    {rest : List InternalWorkerMessage} (hsender : ctx.sender = msg :: rest)
    (hrest : ctx'.sender = rest) (hreg : Reported msg → ∀ subject f,
      ctx'.nats.Registered subject f → ctx.nats.Registered subject f) : InOrder ctx' := by
  obtain ⟨stale, msgs, hchannel, hstale, horder, hidle⟩ := h
  cases stale with
  | nil =>
    -- No message of an aborted task is left, and the rest of an ordered channel is ordered.
    rw [List.nil_append] at hchannel
    obtain rfl : msg :: rest = msgs := hsender.symm.trans hchannel
    exact ⟨[], rest, hrest, hstale, (List.pairwise_cons.mp horder).2, Or.inl rfl⟩
  | cons first stale =>
    -- The message is of an aborted task: it registers nothing, so still nothing is registered.
    obtain ⟨rfl, htail⟩ := List.cons.inj (hsender.symm.trans hchannel)
    have hnone := hidle.resolve_left (by simp)
    refine ⟨stale, msgs, hrest.trans htail,
      fun msg' hmem => hstale msg' (List.mem_cons_of_mem _ hmem), horder, Or.inr ?_⟩
    exact fun subject f hregistered =>
      hnone subject f (hreg (hstale msg List.mem_cons_self) subject f hregistered)

/-- When a callback can be called for the first message, no restored message is left. -/
theorem InOrder.none_restored (h : InOrder ctx) {subject f : String} {data : List UInt8}
    {rest : List InternalWorkerMessage} (hsender : ctx.sender = .callbackCall subject data :: rest)
    (hregistered : ctx.nats.Registered subject f) : ∀ msg ∈ rest, ¬ Restored msg := by
  obtain ⟨stale, msgs, hchannel, hstale, horder, hidle⟩ := h
  -- With a function registered, no message of an aborted task is left in front.
  obtain rfl := hidle.resolve_right fun hnone => hnone subject f hregistered
  rw [List.nil_append] at hchannel
  obtain rfl := hsender.symm.trans hchannel
  intro msg hmem hrestored
  obtain ⟨s', f', heq⟩ := (List.pairwise_cons.mp horder).1 msg hmem hrestored
  exact absurd heq (by simp)

end InOrder

/-! ## The steps -/

section Step

variable {ctx : SubscriberContext} {db : Database} {outcome : String → Except CallError Unit}

/-- A message leaves the registered functions of its subject that it does not find missing. -/
theorem registered_handleCallback {subject s f : String} {data : List UInt8} :
    (handleInternalMessage ctx db outcome (.callbackCall subject data)).1.nats.Registered s f ↔
      ctx.nats.Registered s f ∧
        (s = subject → ¬ (callable f = true ∧ outcome f = .error .notFound)) := by
  show Registered (ctx.nats.runCallbacks subject data (callFunction outcome) db).1 s f ↔ _
  rw [NatsConnectionState.registered_runCallbacks_iff (runCallback_callFunction outcome data)]
  simp only [Bool.not_eq_true', Bool.and_eq_false_imp, decide_eq_false_iff_not, not_and]

/-- A message that is no subscription registers no function. -/
theorem registered_of_handleInternalMessage (ctx : SubscriberContext) {msg : InternalWorkerMessage}
    (hmsg : ∀ register subject f, msg ≠ .subscribe register subject f) {s f : String}
    (h : (handleInternalMessage ctx db outcome msg).1.nats.Registered s f) :
    ctx.nats.Registered s f := by
  cases msg with
  | subscribe register subject fn_name => exact absurd rfl (hmsg register subject fn_name)
  | unsubscribe subject fn_name => exact (NatsConnectionState.registered_unsubscribe.mp h).2
  | callbackCall subject data => exact (registered_handleCallback.mp h).1
  | unsubscribeSubject subject reason =>
    exact (NatsConnectionState.registered_unsubscribeSubject.mp h).2

/-- The check of the role registers no function. -/
theorem registered_of_checkMigration {env : Env} {s f : String}
    (h : (ctx.checkMigration db env).1.nats.Registered s f) : ctx.nats.Registered s f := by
  rcases ctx.checkMigration_cases db env with
    ⟨-, hctx⟩ | ⟨-, -, published, hctx⟩ | ⟨-, -, published, hctx⟩
  · rwa [hctx] at h
  · rw [hctx] at h
    exact absurd h (NatsConnectionState.not_registered_of_lookup rfl)
  · rwa [hctx] at h

end Step

/-- A new process has no registered function. -/
theorem not_registered_start (db : Database) (handled : List Request) (config : Config) (env : Env)
    (subject f : String) :
    ¬ (Subscriber.start db handled config env).ctx.nats.Registered subject f := by
  apply NatsConnectionState.not_registered_of_lookup
  rw [(Subscriber.start_role db handled config env).1]
  rfl

/-- A new process is in order. -/
theorem ordered_start (db : Database) (handled : List Request) (config : Config) (env : Env) :
    Ordered (Subscriber.start db handled config env) := by
  obtain ⟨-, hstatus, hreplica⟩ := Subscriber.start_role db handled config env
  refine ⟨Subscriber.quiet_start db handled config env, ?_, ?_⟩
  · exact inOrder_of_restores (fun msg hmem => absurd hmem List.not_mem_nil)
      (not_registered_start db handled config env) (Subscriber.restores_start db handled config env)
  · intro hrole _ msg hmem
    rw [hreplica (hstatus.symm.trans hrole)] at hmem
    exact absurd hmem List.not_mem_nil

/-- The check of the role keeps the order: a promotion restores rows behind messages of aborted
tasks only. -/
theorem inOrder_checkMigration {s : Subscriber} (h : Ordered s) (hphase : s.phase = .waiting)
    (env : Env) : InOrder (s.ctx.checkMigration s.db env).1 := by
  rcases s.ctx.checkMigration_cases s.db env with
    ⟨-, hctx⟩ | ⟨-, -, published, hctx⟩ | ⟨hreplica, -, -⟩
  · rw [hctx]
    exact h.channel
  · exact h.channel.mono (by rw [hctx]) fun _ _ => registered_of_checkMigration
  · have hnone : ∀ subject f, ¬ s.ctx.nats.Registered subject f := by
      intro subject f
      apply NatsConnectionState.not_registered_of_lookup
      rw [h.quiet.empty hreplica]
      rfl
    exact inOrder_of_restores (h.waiting hreplica hphase)
      (fun subject f hregistered => hnone subject f (registered_of_checkMigration hregistered))
      (s.ctx.restores_checkMigration s.db env)

/-- A message of the channel is taken off, and it registers no function unless it is a
subscription. -/
theorem internal_channel (s : Subscriber) (outcome : String → Except CallError Unit)
    (msg : InternalWorkerMessage) (rest : List InternalWorkerMessage) :
    (s.internal outcome msg rest).ctx.sender = rest ∧
      ((∀ register subject f, msg ≠ .subscribe register subject f) → ∀ subject f,
        (s.internal outcome msg rest).ctx.nats.Registered subject f →
          s.ctx.nats.Registered subject f) := by
  cases hrole : s.ctx.status with
  | replica =>
    rw [Subscriber.internal_of_replica hrole]
    exact ⟨rfl, fun _ _ _ h => h⟩
  | master =>
    rw [Subscriber.internal_of_master hrole]
    exact ⟨handleInternalMessage_sender _ _ _ _,
      fun hmsg _ _ h => registered_of_handleInternalMessage { s.ctx with sender := rest } hmsg h⟩

/-- Every step keeps the order. -/
theorem ordered_step {s s' : Subscriber} {e : Event} (h : Ordered s) (hstep : step s e = some s') :
    Ordered s' := by
  cases e with
  | drop objs =>
    obtain rfl := Option.some.inj hstep
    exact ⟨h.quiet, h.channel, h.waiting⟩
  | process e =>
    have hquiet := Subscriber.quiet_step h.quiet hstep
    cases Subscriber.transition_of_step hstep with
    | deliver msg hlive => exact ⟨h.quiet, h.channel, h.waiting⟩
    | @report handler task result hlive htask =>
      refine ⟨hquiet, h.channel.push (Reported.not_restored ⟨task, result, rfl⟩), ?_⟩
      intro hreplica hwaiting msg hmem
      rcases List.mem_append.mp hmem with hmem | hmem
      · exact h.waiting hreplica hwaiting msg hmem
      · exact ⟨task, result, List.mem_singleton.mp hmem⟩
    | @wake env hphase =>
      exact ⟨hquiet, inOrder_checkMigration h hphase env,
        fun _ hwaiting => absurd hwaiting (by simp)⟩
    | @sharedRecv connected msg recv hphase hrecv =>
      refine ⟨hquiet, ?_, fun _ hwaiting => absurd (hphase.symm.trans hwaiting) (by simp)⟩
      cases msg with
      | newConfig config =>
        obtain ⟨hsender, -, hreg⟩ := s.ctx.applyConfig_frame config connected
        exact h.channel.mono hsender fun s f => (hreg s f).mp
      | subscribe subject f => exact h.channel.push (by rintro ⟨s, f, heq⟩; simp at heq)
      | unsubscribe subject f => exact h.channel.push (by rintro ⟨s, f, heq⟩; simp at heq)
    | sharedEmpty hphase =>
      exact ⟨hquiet, h.channel, fun _ hwaiting => absurd hwaiting (by simp)⟩
    | @internalRecv outcome msg rest hphase hsender =>
      obtain ⟨hkept, hreg⟩ := internal_channel s outcome msg rest
      have hinternal := (s.internal_phase outcome msg rest).trans hphase
      refine ⟨hquiet, h.channel.pop hsender hkept ?_,
        fun _ hwaiting => absurd (hinternal.symm.trans hwaiting) (by simp)⟩
      rintro ⟨task, result, rfl⟩ subject f
      refine hreg ?_ subject f
      cases result <;> simp [Subscriber.reported]
    | internalEmpty hphase hsender =>
      refine ⟨hquiet, h.channel, fun _ _ msg hmem => ?_⟩
      rw [show s.ctx.sender = [] from hsender] at hmem
      exact absurd hmem List.not_mem_nil
    | exit result hcause =>
      exact ⟨hquiet, h.channel, fun _ hwaiting => absurd hwaiting (by simp)⟩
    | restart config env => exact ordered_start _ _ _ _

/-! ## Unregistered functions -/

/-- The pair is neither in the table nor in the map, and no message that restores it is left. -/
structure Gone (pair : String × String) (s : Subscriber) : Prop where
  /-- It has no row. -/
  row : pair ∉ s.db.subscriptions
  /-- It is not registered. -/
  unregistered : ¬ s.ctx.nats.Registered pair.1 pair.2
  /-- It is not about to be restored. -/
  queued : ∀ msg ∈ s.ctx.sender, msg ≠ .subscribe false pair.1 pair.2

/-- The trigger adds no row. -/
theorem mem_of_cleanup {db : Database} {objs : List DroppedObject} {row : String × String}
    (h : row ∈ (cleanupSubscriptionsOnDrop db objs).subscriptions) : row ∈ db.subscriptions := by
  unfold cleanupSubscriptionsOnDrop at h
  induction objs generalizing db with
  | nil => exact h
  | cons obj objs ih =>
    have hrest := ih h
    dsimp only at hrest
    split_ifs at hrest
    · exact List.mem_of_mem_filter hrest
    · exact hrest

section Gone

variable {pair : String × String}

/-- What is restored is not a pair without a row. -/
theorem queued_of_restores {db : Database} {before after : List InternalWorkerMessage}
    (hbefore : ∀ msg ∈ before, msg ≠ .subscribe false pair.1 pair.2)
    (hrow : pair ∉ db.subscriptions) (hrestores : Restores db before after) :
    ∀ msg ∈ after, msg ≠ .subscribe false pair.1 pair.2 := by
  obtain ⟨rows, hrows, rfl⟩ := hrestores
  intro msg hmem
  rcases List.mem_append.mp hmem with hmem | hmem
  · exact hbefore msg hmem
  · obtain ⟨row, hrestored, rfl⟩ := List.mem_map.mp hmem
    intro heq
    obtain ⟨-, hsubject, hf⟩ := InternalWorkerMessage.subscribe.inj heq
    have hpair : row = pair := Prod.ext hsubject hf
    exact hrow (hpair ▸ hrows row hrestored)

/-- Another message may follow. -/
theorem queued_push {sender : List InternalWorkerMessage} {msg : InternalWorkerMessage}
    (h : ∀ msg ∈ sender, msg ≠ .subscribe false pair.1 pair.2)
    (hmsg : msg ≠ .subscribe false pair.1 pair.2) :
    ∀ msg' ∈ sender ++ [msg], msg' ≠ .subscribe false pair.1 pair.2 := by
  intro msg' hmem
  rcases List.mem_append.mp hmem with hmem | hmem
  · exact h msg' hmem
  · rw [List.mem_singleton.mp hmem]
    exact hmsg

/-- A message of the channel leaves a pair out of the map and the table, unless it subscribes it. -/
theorem gone_handleInternalMessage (ctx : SubscriberContext) {db : Database}
    {outcome : String → Except CallError Unit} {msg : InternalWorkerMessage}
    (hmsg : ∀ register, msg ≠ .subscribe register pair.1 pair.2) (hrow : pair ∉ db.subscriptions)
    (hreg : ¬ ctx.nats.Registered pair.1 pair.2) :
    pair ∉ (handleInternalMessage ctx db outcome msg).2.subscriptions ∧
      ¬ (handleInternalMessage ctx db outcome msg).1.nats.Registered pair.1 pair.2 := by
  rw [mem_handleInternalMessage]
  cases msg with
  | subscribe register subject f =>
    have hne : (pair.1, pair.2) ≠ (subject, f) := by
      intro heq
      obtain ⟨rfl, rfl⟩ := Prod.mk.inj heq
      exact hmsg register rfl
    constructor
    · cases register with
      | false => exact hrow
      | true => exact not_or.mpr ⟨hne, hrow⟩
    · exact fun h => hreg ((NatsConnectionState.registered_subscribe.mp h).resolve_left hne)
  | unsubscribe subject f =>
    exact ⟨fun h => hrow h.2, fun h => hreg (registered_of_handleInternalMessage ctx (by simp) h)⟩
  | callbackCall subject data =>
    exact ⟨hrow, fun h => hreg (registered_of_handleInternalMessage ctx (by simp) h)⟩
  | unsubscribeSubject subject reason =>
    exact ⟨hrow, fun h => hreg (registered_of_handleInternalMessage ctx (by simp) h)⟩

/-- A step that handles no `Subscribe` for the pair leaves it gone. -/
theorem gone_step {s s' : Subscriber} {e : Event} (h : Gone pair s) (hno : NoSubscribe pair s e)
    (hstep : step s e = some s') : Gone pair s' := by
  cases e with
  | drop objs =>
    obtain rfl := Option.some.inj hstep
    exact ⟨fun hrow => h.row (mem_of_cleanup hrow), h.unregistered, h.queued⟩
  | process e =>
    cases Subscriber.transition_of_step hstep with
    | deliver msg hlive => exact ⟨h.row, h.unregistered, h.queued⟩
    | @report handler task result hlive htask =>
      refine ⟨h.row, h.unregistered, queued_push h.queued ?_⟩
      cases result <;> simp [Subscriber.reported]
    | @wake env hphase =>
      exact ⟨h.row, fun hreg => h.unregistered (registered_of_checkMigration hreg),
        queued_of_restores h.queued h.row (s.ctx.restores_checkMigration s.db env)⟩
    | @sharedRecv connected msg recv hphase hrecv =>
      cases msg with
      | newConfig config =>
        obtain ⟨hsender, -, hreg⟩ := s.ctx.applyConfig_frame config connected
        refine ⟨h.row, fun hregistered => h.unregistered ((hreg _ _).mp hregistered), ?_⟩
        exact fun msg hmem => h.queued msg (hsender ▸ hmem)
      | subscribe subject f => exact ⟨h.row, h.unregistered, queued_push h.queued (by simp)⟩
      | unsubscribe subject f => exact ⟨h.row, h.unregistered, queued_push h.queued (by simp)⟩
    | sharedEmpty hphase => exact ⟨h.row, h.unregistered, h.queued⟩
    | @internalRecv outcome msg rest hphase hsender =>
      have hrest : ∀ msg' ∈ rest, msg' ≠ .subscribe false pair.1 pair.2 := fun msg' hmem =>
        h.queued msg' (hsender ▸ List.mem_cons_of_mem _ hmem)
      cases hrole : s.ctx.status with
      | replica =>
        rw [Subscriber.internal_of_replica hrole]
        exact ⟨h.row, h.unregistered, hrest⟩
      | master =>
        have hmsg : ∀ register, msg ≠ .subscribe register pair.1 pair.2 := by
          rintro (_ | _) rfl
          · exact h.queued _ (hsender ▸ List.mem_cons_self) rfl
          · exact hno hrole rest hsender
        obtain ⟨hrow, hreg⟩ := gone_handleInternalMessage { s.ctx with sender := rest } hmsg h.row
          h.unregistered
        rw [Subscriber.internal_of_master hrole]
        refine ⟨hrow, hreg, ?_⟩
        dsimp only
        rw [handleInternalMessage_sender]
        exact hrest
    | internalEmpty hphase hsender => exact ⟨h.row, h.unregistered, h.queued⟩
    | exit result hcause => exact ⟨h.row, h.unregistered, h.queued⟩
    | restart config env =>
      exact ⟨h.row, not_registered_start _ _ _ _ _ _,
        queued_of_restores (fun msg hmem => absurd hmem List.not_mem_nil) h.row
          (Subscriber.restores_start _ _ _ _)⟩

end Gone

/-- A message for a subject unregisters the functions that a master calls and finds missing. -/
theorem unregisters_iff {s s' : Subscriber} {outcome : String → Except CallError Unit}
    {subject f : String} {data : List UInt8} {rest : List InternalWorkerMessage}
    (hsender : s.ctx.sender = .callbackCall subject data :: rest)
    (hstep : s.step (.internalRecv outcome) = some s') :
    Unregisters s (.process (.internalRecv outcome)) s' subject f ↔
      s.phase = .internal ∧ s.ctx.status = .master ∧ s.ctx.nats.Registered subject f ∧
        callable f = true ∧ outcome f = .error .notFound := by
  have hhead : ∃ outcome' data rest, Event.process (.internalRecv outcome) =
      .process (.internalRecv outcome') ∧ s.ctx.sender = .callbackCall subject data :: rest :=
    ⟨outcome, data, rest, rfl, hsender⟩
  cases Subscriber.transition_of_step hstep with
  | exit result hcause => simp at hcause
  | @internalRecv _ msg rest' hphase hsender' =>
    obtain ⟨rfl, rfl⟩ := List.cons.inj (hsender'.symm.trans hsender)
    unfold Unregisters
    cases hrole : s.ctx.status with
    | replica =>
      rw [Subscriber.internal_of_replica hrole]
      exact iff_of_false (fun h => h.2.2 h.2.1) fun h => absurd h.2.1 (by simp)
    | master =>
      rw [Subscriber.internal_of_master hrole, registered_handleCallback]
      constructor
      · rintro ⟨-, hbefore, hafter⟩
        refine ⟨hphase, rfl, hbefore, ?_⟩
        by_contra hfound
        exact hafter ⟨hbefore, fun _ => hfound⟩
      · rintro ⟨-, -, hbefore, hmissing⟩
        exact ⟨hhead, hbefore, fun hafter => hafter.2 rfl hmissing⟩

/-- A message changes no row. -/
theorem rows_of_callbackCall {s s' : Subscriber} {outcome : String → Except CallError Unit}
    {subject : String} {data : List UInt8} {rest : List InternalWorkerMessage}
    (hsender : s.ctx.sender = .callbackCall subject data :: rest)
    (hstep : s.step (.internalRecv outcome) = some s') :
    s'.ctx.sender = rest ∧ ∀ row, row ∈ s'.db.subscriptions ↔ row ∈ s.db.subscriptions := by
  cases Subscriber.transition_of_step hstep with
  | exit result hcause => simp at hcause
  | @internalRecv _ msg rest' hphase hsender' =>
    obtain ⟨rfl, rfl⟩ := List.cons.inj (hsender'.symm.trans hsender)
    refine ⟨(internal_channel s outcome _ _).1, fun row => ?_⟩
    cases hrole : s.ctx.status with
    | replica => rw [Subscriber.internal_of_replica hrole]
    | master =>
      rw [Subscriber.internal_of_master hrole]
      exact mem_handleInternalMessage _

/-- What a step unregisters stays unregistered exactly when the step meets the condition. -/
theorem durable_step_iff {s : Subscriber} (h : Ordered s) (e : Event) :
    (∀ s', step s e = some s' → Durable s e s') ↔ RowsGone s e := by
  have hother : (∀ outcome, e ≠ .process (.internalRecv outcome)) →
      ∀ s', Durable s e s' := by
    rintro hne s' subject f ⟨⟨outcome, data, rest, heq, -⟩, -⟩
    exact absurd heq (hne outcome)
  rcases e with e | objs
  · cases e with
    | internalRecv outcome =>
      constructor
      · intro hall hphase hmaster subject data rest hsender f hregistered hcallable hmissing
        have hstep := Subscriber.step_internalRecv hphase hsender outcome
        have hunregisters := (unregisters_iff hsender hstep).mpr
          ⟨hphase, hmaster, hregistered, hcallable, hmissing⟩
        -- The message itself deletes no row, so the row was gone before.
        obtain ⟨hrow, -⟩ := hall _ hstep subject f hunregisters
        exact fun hmem => hrow (((rows_of_callbackCall hsender hstep).2 _).mpr hmem)
      · intro hok s' hstep subject f hunregisters
        obtain ⟨_, data, rest, -, hsender⟩ := hunregisters.1
        obtain ⟨hphase, hmaster, hregistered, hcallable, hmissing⟩ :=
          (unregisters_iff hsender hstep).mp hunregisters
        obtain ⟨hrest, hrows⟩ := rows_of_callbackCall hsender hstep
        have hrow : (subject, f) ∉ s'.db.subscriptions := fun hmem =>
          hok hphase hmaster subject data rest hsender f hregistered hcallable hmissing
            ((hrows _).mp hmem)
        -- The pair is gone altogether: nothing in the channel restores it either.
        have hgone : Gone (subject, f) s' := by
          refine ⟨hrow, hunregisters.2.2, fun msg hmem heq => ?_⟩
          rw [hrest] at hmem
          exact h.channel.none_restored hsender hregistered msg hmem ⟨subject, f, heq⟩
        refine ⟨hrow, fun es t hno hrun => ?_⟩
        exact (Run.run_invariant (fun _ _ _ => gone_step) hgone hno hrun).unregistered
    | _ => exact iff_of_true (fun s' _ => hother (by simp) s') trivial
  · exact iff_of_true (fun s' _ => hother (by simp) s') trivial

/-- In a run, each function that a message finds missing has no row from then on and is not
registered again before a `Subscribe` for it is handled, exactly when each such function has no row
when the message is handled. -/
theorem durable_iff (db : Database) (config : Config) (env : Env) (es : List Event) :
    (∀ pre e, pre ++ [e] <+: es → ∀ s s',
        Run.run step (Subscriber.start db [] config env) pre = some s → step s e = some s' →
          Durable s e s') ↔
      RunAll step RowsGone (Subscriber.start db [] config env) es :=
  Run.forall_step_iff_runAll (fun _ _ _ => ordered_step) (fun _ e h => durable_step_iff h e)
    (ordered_start db [] config env) es

/-- The steps from the start of a master up to a message for its subscription. -/
def upToMessage : List Event :=
  [.process (.wake .exist ⟨.master, true, ⟨none, none, id⟩, true⟩), .process .sharedEmpty,
    .process (.internalRecv fun _ => .ok ()), .process (.report 0 (.ok [1]))]

/-- The steps of a restart. -/
def restartAndRestore : List Event :=
  [.process (.restart (validatorConfig []) ⟨.master, true, ⟨none, none, id⟩, true⟩),
    .process (.wake .exist ⟨.master, true, ⟨none, none, id⟩, true⟩), .process .sharedEmpty,
    .process (.internalRecv fun _ => .ok ())]

/-- A function is found missing, and no trigger has deleted its row. The next process registers it
again, without a request. -/
theorem registered_again :
    ∃ s s' t, Run.run step (Subscriber.start ⟨[("orders", "public.on_order")], []⟩ []
        (validatorConfig []) ⟨.master, true, ⟨none, none, id⟩, true⟩) upToMessage = some s ∧
      step s (.process (.internalRecv fun _ => .error .notFound)) = some s' ∧
      Unregisters s (.process (.internalRecv fun _ => .error .notFound)) s' "orders"
        "public.on_order" ∧
      ¬ Durable s (.process (.internalRecv fun _ => .error .notFound)) s' ∧
      Run.run step s' restartAndRestore = some t ∧ t.handled = s'.handled ∧
      t.ctx.nats.Registered "orders" "public.on_order" := by
  obtain ⟨s, s', t, hrun, hsender, hstep, hrow, hregistered, hphase, hmaster, hrestart, hhandled,
      hagain⟩ :
      ∃ s s' t, Run.run step (Subscriber.start ⟨[("orders", "public.on_order")], []⟩ []
        (validatorConfig []) ⟨.master, true, ⟨none, none, id⟩, true⟩) upToMessage = some s ∧
      s.ctx.sender = [.callbackCall "orders" [1]] ∧
      s.step (.internalRecv fun _ => .error .notFound) = some s' ∧
      ("orders", "public.on_order") ∈ s'.db.subscriptions ∧
      s.ctx.nats.Registered "orders" "public.on_order" ∧ s.phase = .internal ∧
      s.ctx.status = .master ∧ Run.run step s' restartAndRestore = some t ∧
      t.handled = s'.handled ∧ t.ctx.nats.Registered "orders" "public.on_order" :=
    ⟨_, _, _, rfl, rfl, rfl, by decide, ⟨_, rfl, by decide⟩, rfl, rfl, rfl, rfl, _, rfl, by decide⟩
  have hunregisters := (unregisters_iff hsender hstep).mpr
    ⟨hphase, hmaster, hregistered, by decide, rfl⟩
  exact ⟨s, s', t, hrun, hstep, hunregisters, fun hdurable => (hdurable _ _ hunregisters).1 hrow,
    hrestart, hhandled, hagain⟩

end Missing

end PgNats
