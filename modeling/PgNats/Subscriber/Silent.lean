import PgNats.Subscriber.Loop

/-!
# A replica is silent

`Quiet` is the invariant of a subscriber's context: every task that is not aborted handles a
subscribed subject, and a replica has no subscribed subject. A demotion establishes the second part,
a reconnect on a replica rebuilds the empty map, and the loop over the internal channel, which is
the only place where the map or the table can grow, drops every message on a replica.

`silent_of_replica` is the result for whole runs: whatever happens, as long as the status is
`Replica`, the map is empty, every task is aborted, and no callback is called and no row changes.
-/

namespace PgNats

open Run (RunAll)

namespace SubscriberContext

/-- The handlers and the map of a context fit its role. -/
structure Quiet (ctx : SubscriberContext) : Prop where
  /-- A task that is not aborted handles a subscribed subject. -/
  owned : ctx.nats.Owned ctx.rt
  /-- A replica has no subscribed subject. -/
  empty : ctx.status = .replica → ctx.nats.subscriptions = ∅

/-- The check of the role keeps the context quiet: a demotion drops the map. -/
theorem quiet_checkMigration {ctx : SubscriberContext} (h : Quiet ctx) (db : Database)
    (env : Env) : Quiet (ctx.checkMigration db env).1 := by
  rcases ctx.checkMigration_cases db env with
    ⟨-, hctx⟩ | ⟨-, -, published, hctx⟩ | ⟨-, -, published, hctx⟩
  · rw [hctx]
    exact h
  · rw [hctx]
    refine ⟨fun i task htask hlive => ?_, fun _ => rfl⟩
    rw [NatsConnectionState.aborted_of_unsubscribeAll h.owned htask] at hlive
    exact absurd hlive (by simp)
  · rw [hctx]
    exact ⟨h.owned, fun hreplica => absurd hreplica (by simp)⟩

/-- A new configuration keeps the context quiet: a reconnect rebuilds the map that was there. -/
theorem quiet_applyConfig {ctx : SubscriberContext} (h : Quiet ctx) (config : Config)
    (connected : Bool) : Quiet (ctx.applyConfig config connected).1 := by
  rcases ctx.applyConfig_cases config connected with ⟨-, happly⟩ | ⟨-, -, happly⟩ | ⟨-, -, happly⟩
  · rw [happly]
    exact ⟨h.owned, h.empty⟩
  · rw [happly]
    exact h
  · rw [happly]
    refine ⟨NatsConnectionState.owned_reconnectNats h.owned, fun hreplica => ?_⟩
    have hsubs := h.empty hreplica
    unfold NatsConnectionState.reconnectNats NatsConnectionState.unsubscribeAll
    rw [if_pos rfl]
    dsimp only
    rw [hsubs, HashMap.mapAccum_empty]

/-- A message of the queue keeps the context quiet: a request only goes to the channel. -/
theorem quiet_handleMessageFromSharedQueue {ctx : SubscriberContext} (h : Quiet ctx)
    (connected : Bool) (msg : SubscriberMessage) :
    Quiet (handleMessageFromSharedQueue ctx connected msg) := by
  cases msg with
  | newConfig config => exact quiet_applyConfig h config connected
  | subscribe subject fn_name => exact ⟨h.owned, h.empty⟩
  | unsubscribe subject fn_name => exact ⟨h.owned, h.empty⟩

/-- A message of the channel keeps the tasks owned and the status. -/
theorem owned_handleInternalMessage {ctx : SubscriberContext} (db : Database)
    (h : ctx.nats.Owned ctx.rt) (outcome : String → Except CallError Unit)
    (msg : InternalWorkerMessage) :
    (handleInternalMessage ctx db outcome msg).1.nats.Owned
        (handleInternalMessage ctx db outcome msg).1.rt ∧
      (handleInternalMessage ctx db outcome msg).1.status = ctx.status := by
  cases msg with
  | subscribe register subject fn_name => exact ⟨NatsConnectionState.owned_subscribe h, rfl⟩
  | unsubscribe subject fn_name => exact ⟨NatsConnectionState.owned_unsubscribe h, rfl⟩
  | callbackCall subject data => exact ⟨NatsConnectionState.owned_runCallbacks h, rfl⟩
  | unsubscribeSubject subject reason =>
    exact ⟨NatsConnectionState.owned_unsubscribeSubject h, rfl⟩

/-- A fresh connection has no subject and no task. -/
theorem quiet_new (config : Config) (env : Env) :
    Quiet (new (NatsConnectionState.new Runtime.new config.nats_opt).2 []
      (NatsConnectionState.new Runtime.new config.nats_opt).1 config env) := by
  refine ⟨fun i task htask _ => ?_, fun _ => rfl⟩
  exact absurd htask (by simp [new, NatsConnectionState.new, Runtime.new, Runtime.connect])

end SubscriberContext

namespace Subscriber

open SubscriberContext (Quiet)

/-- A new process is quiet. -/
theorem quiet_start (db : Database) (handled : List Request) (config : Config) (env : Env) :
    Quiet (start db handled config env).ctx := by
  have hnew := SubscriberContext.quiet_new config env
  obtain ⟨published, hstart⟩ := start_eq db handled config env
  rw [hstart]
  exact ⟨hnew.owned, hnew.empty⟩

/-- Every step keeps the context quiet. -/
theorem quiet_step {s s' : Subscriber} {e : Event} (h : Quiet s.ctx) (hstep : step s e = some s') :
    Quiet s'.ctx := by
  cases transition_of_step hstep with
  | deliver msg hlive => exact h
  | report hlive htask => exact ⟨h.owned, h.empty⟩
  | wake hphase => exact SubscriberContext.quiet_checkMigration h _ _
  | sharedRecv hphase hrecv =>
    exact SubscriberContext.quiet_handleMessageFromSharedQueue h _ _
  | sharedEmpty hphase => exact h
  | @internalRecv outcome msg rest hphase hsender =>
    cases hrole : s.ctx.status with
    | replica =>
      rw [internal_of_replica hrole]
      exact ⟨h.owned, h.empty⟩
    | master =>
      obtain ⟨howned, hstatus⟩ := SubscriberContext.owned_handleInternalMessage s.db
        (show NatsConnectionState.Owned { s.ctx with sender := rest }.nats s.ctx.rt from h.owned)
        outcome msg
      rw [internal_of_master hrole]
      refine ⟨howned, fun hreplica => ?_⟩
      exact absurd ((hstatus.trans hrole).symm.trans hreplica) (by simp)
  | internalEmpty hphase hsender => exact h
  | exit result hcause => exact h
  | restart config env => exact quiet_start _ _ _ _

/-- A step of a replica leaves the database alone. -/
theorem db_step_of_replica {s s' : Subscriber} {e : Event} (hreplica : s.ctx.status = .replica)
    (hstep : step s e = some s') : s'.db = s.db := by
  cases transition_of_step hstep with
  | deliver msg hlive => rfl
  | report hlive htask => rfl
  | wake hphase => rfl
  | sharedRecv hphase hrecv => rfl
  | sharedEmpty hphase => rfl
  | internalRecv hphase hsender =>
    rw [internal_of_replica hreplica]
  | internalEmpty hphase hsender => rfl
  | exit result hcause => rfl
  | restart config env => rfl

/-- In every state that a run reaches with status `Replica`, no subject is subscribed and every task
is aborted, and whatever happens from there while the status stays `Replica`, the table and the list
of callback calls stay as they are. -/
theorem silent_of_replica (db : Database) (config : Config) (env : Env) {es : List Event}
    {s : Subscriber} (hrun : Run.run step (start db [] config env) es = some s)
    (hreplica : s.ctx.status = .replica) :
    s.ctx.nats.subscriptions = ∅ ∧ (∀ task ∈ s.ctx.rt.tasks, task.aborted = true) ∧
      ∀ es' s', RunAll step (fun s _ => s.ctx.status = .replica) s es' →
        Run.run step s es' = some s' → s'.db = s.db := by
  have hquiet : Quiet s.ctx :=
    Run.run_invariant_of_step (fun _ _ _ => quiet_step) (quiet_start db [] config env) hrun
  have hempty := hquiet.empty hreplica
  refine ⟨hempty, fun task htask => hquiet.owned.aborted hempty htask, ?_⟩
  intro es' s' hall hrun'
  have hstep : ∀ t e t', t.db = s.db → t.ctx.status = .replica → step t e = some t' →
      t'.db = s.db := fun _ _ _ hdb hrep hstep => (db_step_of_replica hrep hstep).trans hdb
  exact Run.run_invariant hstep rfl hall hrun'

/-- A master with a stored subscription in its channel is demoted, and a request is queued behind.
Both are dropped: the run keeps the database. -/
theorem silent_after_demotion :
    ∃ s, Run.run step
        (start ⟨[("a", "f")], []⟩ [] (parseConfig ∅) ⟨.master, true, ⟨none, none, id⟩, true⟩)
        [.deliver (.subscribe "b" "g"), .wake .exist ⟨.replica, true, ⟨none, none, id⟩, true⟩,
          .sharedRecv true, .sharedEmpty] = some s ∧
      s.ctx.nats.subscriptions = ∅ ∧
      ∀ es' s', RunAll step (fun s _ => s.ctx.status = .replica) s es' →
        Run.run step s es' = some s' → s'.db = s.db := by
  obtain ⟨s, hrun, hreplica⟩ : ∃ s, Run.run step
      (start ⟨[("a", "f")], []⟩ [] (parseConfig ∅) ⟨.master, true, ⟨none, none, id⟩, true⟩)
      [.deliver (.subscribe "b" "g"), .wake .exist ⟨.replica, true, ⟨none, none, id⟩, true⟩,
        .sharedRecv true, .sharedEmpty] = some s ∧ s.ctx.status = .replica := ⟨_, rfl, rfl⟩
  obtain ⟨hempty, -, hdb⟩ := silent_of_replica _ _ _ hrun hreplica
  exact ⟨s, hrun, hempty, hdb⟩

end Subscriber

end PgNats
