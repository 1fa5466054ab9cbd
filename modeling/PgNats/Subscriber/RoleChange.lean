import PgNats.Subscriber.Loop

/-!
# What becomes of a role change

`check_migration` compares the recorded status with the role of the instance. When they differ it
records the new role first, and then restores the stored subscriptions, on a promotion, and
publishes a notification. An error of these steps is returned, and the loop only logs it. The next
call then sees no change, and nothing is tried again.

`Watched` is a subscriber with what an observer remembers of its role: the role last observed,
whether it has changed since the start of the process, and whether the stored subscriptions were
fetched and queued when the process last became a master. `role_changes_handled_iff` says exactly
when role changes are handled completely or retried: when every step of every role change succeeds.
-/

namespace PgNats

/-! ## A subscriber and its role -/

/-- A subscriber with what an observer remembers of its role. -/
structure Watched where
  /-- The subscriber. -/
  sub : Subscriber
  /-- The role that `fetch_status` returned last. -/
  observed : PgInstanceStatus
  /-- Whether that role was ever different from the recorded one, since the process started. -/
  changed : Bool
  /-- Whether the stored subscriptions were fetched and queued for the current promotion. -/
  restored : Bool
  deriving DecidableEq

/-- Whether the stored subscriptions are fetched, and put at the end of the internal channel. -/
def queues (db : Database) (env : Env) (before after : List InternalWorkerMessage) : Bool :=
  match fetchSubjectWithCallbacks db env.selected with
  | .ok rows => decide (after =
      before ++ rows.map fun row => InternalWorkerMessage.subscribe false row.1 row.2)
  | .error () => false

namespace Watched

/-- A new process. -/
def start (db : Database) (handled : List Request) (config : Config) (env : Env) : Watched :=
  let sub := Subscriber.start db handled config env
  { sub
    observed := env.role
    changed := false
    restored := env.role == .master && queues db env [] sub.ctx.sender }

/-- One step. The role is observed when the loop checks it. -/
def step (w : Watched) (e : Subscriber.Event) : Option Watched :=
  (w.sub.step e).map fun sub => match e with
    | .wake .exist env =>
      { sub
        observed := env.role
        changed := w.changed || w.sub.ctx.status != env.role
        restored := match w.sub.ctx.status, env.role with
          | .replica, .master => queues w.sub.db env w.sub.ctx.sender sub.ctx.sender
          | .master, .master => w.restored
          | _, .replica => false }
    | .restart config env => start w.sub.db w.sub.handled config env
    | _ => { w with sub }

/-- The last notification published carries this role. -/
def Announced (w : Watched) : Prop :=
  ∃ last, w.sub.ctx.rt.published.getLast? = some last ∧ last.2.status = w.sub.ctx.status

/-- What is wanted of every state: a master has its subscriptions fetched and queued, and when the
recorded role is the one last observed, it has been announced, if it ever changed. -/
def Handled (w : Watched) : Prop :=
  (w.sub.ctx.status = .master → w.restored = true) ∧
    (w.sub.ctx.status = w.observed → w.changed = true → w.Announced)

end Watched

namespace SubscriberContext

/-- The notification of the role can be built. -/
def CanNotify (ctx : SubscriberContext) (env : Env) : Prop :=
  PgInstanceNotification.new env.role ctx.config.patroni_url env.settings ≠ none

/-- Every step of the role change that the context is about to see succeeds. -/
def MigrationSafe (ctx : SubscriberContext) (env : Env) : Prop :=
  ctx.status ≠ env.role →
    (env.role = .master → env.selected = true) ∧ ctx.CanNotify env ∧ env.published = true

instance (ctx : SubscriberContext) (env : Env) : Decidable (ctx.CanNotify env) :=
  inferInstanceAs (Decidable (_ ≠ none))

end SubscriberContext

/-- The condition on a step: the steps of a role change succeed, and a new process that starts as a
master can read the subscriptions. -/
def RoleSafe (w : Watched) : Subscriber.Event → Prop
  | .wake .exist env => w.sub.ctx.MigrationSafe env
  | .restart _ env => env.role = .master → env.selected = true
  | _ => True

namespace SubscriberContext

variable {ctx : SubscriberContext} {db : Database} {env : Env}

/-- A notification that can be built and published is the last one published. -/
theorem sendNotification_ok (ctx : SubscriberContext) (hstatus : ctx.status = env.role)
    (hnotify : ctx.CanNotify env) (hpublished : env.published = true) :
    (ctx.sendNotification env).2 = .ok () ∧
      ∃ last, (ctx.sendNotification env).1.rt.published.getLast? = some last ∧
        last.2.status = env.role := by
  unfold CanNotify at hnotify
  obtain ⟨notification, hnew⟩ := Option.ne_none_iff_exists'.mp hnotify
  have hcarries : notification.status = env.role := by
    unfold PgInstanceNotification.new at hnew
    simp only [Option.bind_eq_bind, Option.pure_def, Option.bind_eq_some_iff,
      Option.some.injEq] at hnew
    obtain ⟨listen, -, port, -, number, -, rfl⟩ := hnew
    rfl
  unfold sendNotification
  rw [hstatus, hnew, hpublished]
  exact ⟨rfl, (ctx.config.notify_subject, notification), List.getLast?_concat, hcarries⟩

/-- A notification that cannot be built or published is an error. -/
theorem sendNotification_error (hstatus : ctx.status = env.role)
    (h : ¬ (ctx.CanNotify env ∧ env.published = true)) :
    (ctx.sendNotification env).2 = .error () := by
  unfold sendNotification
  rw [hstatus]
  cases hnew : PgInstanceNotification.new env.role ctx.config.patroni_url env.settings with
  | none => rfl
  | some notification =>
    dsimp only
    refine congrArg Prod.snd (if_neg fun hpublished => h ⟨?_, hpublished⟩)
    unfold CanNotify
    rw [hnew]
    simp

/-- A catalog read that succeeds queues the stored subscriptions. -/
theorem restoreState_ok (ctx : SubscriberContext) (db : Database)
    (hselected : env.selected = true) :
    ∃ sender, ctx.restoreState db env = ({ ctx with sender }, .ok ()) ∧
      queues db env ctx.sender sender = true := by
  unfold restoreState queues fetchSubjectWithCallbacks
  rw [hselected, if_pos rfl]
  exact ⟨_, rfl, decide_eq_true rfl⟩

/-- A catalog read that fails changes nothing and is an error. -/
theorem restoreState_error (ctx : SubscriberContext) (db : Database)
    (hselected : ¬ env.selected = true) : ctx.restoreState db env = (ctx, .error ()) := by
  unfold restoreState fetchSubjectWithCallbacks
  rw [if_neg hselected]

/-- After the check, the recorded role is the one observed. -/
theorem checkMigration_status (ctx : SubscriberContext) (db : Database) (env : Env) :
    (ctx.checkMigration db env).1.status = env.role := by
  rcases ctx.checkMigration_cases db env with
    ⟨hsame, hctx⟩ | ⟨-, hrole, published, hctx⟩ | ⟨-, hrole, published, hctx⟩
  · rw [hctx, hsame]
  · rw [hctx, hrole]
  · rw [hctx, hrole]

/-- A role change whose steps all succeed is announced, and a promotion queues the stored
subscriptions. -/
theorem checkMigration_safe (db : Database) (hchange : ctx.status ≠ env.role)
    (hsafe : ctx.MigrationSafe env) :
    (ctx.checkMigration db env).2 = .ok () ∧
      (∃ last, (ctx.checkMigration db env).1.rt.published.getLast? = some last ∧
        last.2.status = env.role) ∧
      (env.role = .master →
        queues db env ctx.sender (ctx.checkMigration db env).1.sender = true) := by
  obtain ⟨hselected, hnotify, hpublished⟩ := hsafe hchange
  rcases role_changed hchange with ⟨hstatus, hrole⟩ | ⟨hstatus, hrole⟩
  · unfold checkMigration
    rw [hstatus, hrole]
    dsimp only
    obtain ⟨hok, hlast⟩ := sendNotification_ok
      { ctx with status := .replica, nats := (ctx.nats.unsubscribeAll ctx.rt).2.1,
                 rt := (ctx.nats.unsubscribeAll ctx.rt).2.2 } hrole.symm hnotify hpublished
    exact ⟨hok, hrole ▸ hlast, fun hmaster => absurd hmaster (by simp)⟩
  · obtain ⟨sender, hrestore, hqueued⟩ :=
      restoreState_ok { ctx with status := .master } db (hselected hrole)
    unfold checkMigration
    rw [hstatus, hrole]
    dsimp only
    rw [hrestore]
    dsimp only
    obtain ⟨hok, hlast⟩ :=
      sendNotification_ok { ctx with status := .master, sender } hrole.symm hnotify hpublished
    refine ⟨hok, hrole ▸ hlast, fun _ => ?_⟩
    obtain ⟨published, hframe⟩ :=
      sendNotification_frame { ctx with status := .master, sender } env
    rw [hframe]
    exact hqueued

/-- A role change with a step that fails is an error. -/
theorem checkMigration_fails (db : Database) (hfails : ¬ ctx.MigrationSafe env) :
    (ctx.checkMigration db env).2 = .error () ∧ ctx.status ≠ env.role := by
  obtain ⟨hchange, hfails⟩ := Classical.not_imp.mp hfails
  refine ⟨?_, hchange⟩
  rcases role_changed hchange with ⟨hstatus, hrole⟩ | ⟨hstatus, hrole⟩
  · unfold checkMigration
    rw [hstatus, hrole]
    refine sendNotification_error hrole.symm fun hnotify => hfails ⟨?_, hnotify⟩
    rw [hrole]
    exact fun hmaster => absurd hmaster (by simp)
  · unfold checkMigration
    rw [hstatus, hrole]
    dsimp only
    by_cases hselected : env.selected = true
    · obtain ⟨sender, hrestore, -⟩ := restoreState_ok { ctx with status := .master } db hselected
      rw [hrestore]
      exact sendNotification_error hrole.symm
        fun hnotify => hfails ⟨fun _ => hselected, hnotify⟩
    · rw [restoreState_error _ db hselected]

end SubscriberContext

/-! ## The other steps -/

/-- Neither the recorded role nor the list of published messages has changed. -/
def SubscriberContext.SameRole (ctx ctx' : SubscriberContext) : Prop :=
  ctx'.status = ctx.status ∧ ctx'.rt.published = ctx.rt.published

namespace SubscriberContext

/-- A message of the queue changes neither the role nor what was published. -/
theorem sameRole_handleMessageFromSharedQueue (ctx : SubscriberContext) (connected : Bool)
    (msg : SubscriberMessage) : ctx.SameRole (handleMessageFromSharedQueue ctx connected msg) := by
  cases msg with
  | newConfig config =>
    refine ⟨(ctx.applyConfig_frame config connected).2.1, ?_⟩
    show (ctx.applyConfig config connected).1.rt.published = ctx.rt.published
    rcases ctx.applyConfig_cases config connected with ⟨-, happly⟩ | ⟨-, -, happly⟩ | ⟨-, -, happly⟩
    · rw [happly]
    · rw [happly]
    · rw [happly]
      exact NatsConnectionState.reconnectNats_frame.2
  | subscribe subject fn_name => exact ⟨rfl, rfl⟩
  | unsubscribe subject fn_name => exact ⟨rfl, rfl⟩

/-- A message of the channel changes neither the role nor what was published. -/
theorem sameRole_handleInternalMessage (ctx : SubscriberContext) (db : Database)
    (outcome : String → Except CallError Unit) (msg : InternalWorkerMessage) :
    ctx.SameRole (handleInternalMessage ctx db outcome msg).1 := by
  cases msg with
  | subscribe register subject fn_name =>
    exact ⟨rfl, NatsConnectionState.subscribe_frame.2.2⟩
  | unsubscribe subject fn_name =>
    exact ⟨rfl, NatsConnectionState.unsubscribe_frame.2.2⟩
  | callbackCall subject data => exact ⟨rfl, rfl⟩
  | unsubscribeSubject subject reason =>
    exact ⟨rfl, NatsConnectionState.unsubscribeSubject_frame.2.2⟩

end SubscriberContext

/-- Only a check of the role changes the role or publishes, within one process. -/
theorem Subscriber.sameRole_of_step {s s' : Subscriber} {e : Event} (h : Transition s e s')
    (hwake : ∀ env, e ≠ .wake .exist env) (hrestart : ∀ config env, e ≠ .restart config env) :
    s.ctx.SameRole s'.ctx := by
  cases h with
  | wake hphase => exact absurd rfl (hwake _)
  | restart config env => exact absurd rfl (hrestart config env)
  | sharedRecv hphase hrecv =>
    exact s.ctx.sameRole_handleMessageFromSharedQueue _ _
  | @internalRecv outcome msg rest hphase hsender =>
    unfold internal
    dsimp only
    split_ifs with hreplica
    · exact ⟨rfl, rfl⟩
    · exact SubscriberContext.sameRole_handleInternalMessage _ _ _ _
  | _ => exact ⟨rfl, rfl⟩

namespace Watched

variable {w w' : Watched} {e : Subscriber.Event}

/-- The invariant of the runs that meet the condition. -/
structure Current (w : Watched) : Prop where
  /-- The recorded role is the one last observed. -/
  status_eq : w.sub.ctx.status = w.observed
  /-- A master has its subscriptions fetched and queued. -/
  restored : w.sub.ctx.status = .master → w.restored = true
  /-- A role that has changed was announced. -/
  announced : w.changed = true → w.Announced

/-- A state with the invariant is as wanted. -/
theorem Current.handled (hw : w.Current) : w.Handled := ⟨hw.restored, fun _ => hw.announced⟩

/-- A new process records the role that it observes, and on a master queues the stored subscriptions
if it can read them. -/
theorem start_spec (db : Database) (handled : List Request) (config : Config) (env : Env) :
    (start db handled config env).sub.ctx.status = env.role ∧
      (env.role = .master →
        ((start db handled config env).restored = true ↔ env.selected = true)) := by
  unfold start Subscriber.start
  dsimp only
  obtain ⟨published, hnotified⟩ := SubscriberContext.sendNotification_frame
    (.new (NatsConnectionState.new Runtime.new config.nats_opt).2 []
      (NatsConnectionState.new Runtime.new config.nats_opt).1 config env) env
  rw [hnotified]
  unfold SubscriberContext.new SubscriberContext.isMaster
  dsimp only
  cases hrole : env.role with
  | replica => exact ⟨rfl, fun h => absurd h (by simp)⟩
  | master =>
    by_cases hselected : env.selected = true
    · obtain ⟨sender, hrestore, hqueued⟩ := SubscriberContext.restoreState_ok
        { sender := []
          rt := { (NatsConnectionState.new Runtime.new config.nats_opt).2 with published }
          config, nats := (NatsConnectionState.new Runtime.new config.nats_opt).1
          status := .master } db hselected
      simp only [BEq.rfl, if_true, hrestore, Bool.true_and]
      exact ⟨trivial, fun _ => iff_of_true hqueued hselected⟩
    · simp only [BEq.rfl, if_true, SubscriberContext.restoreState_error _ db hselected,
        Bool.true_and]
      refine ⟨trivial, fun _ => iff_of_false ?_ hselected⟩
      unfold queues fetchSubjectWithCallbacks
      rw [if_neg hselected]
      simp

/-- A new process. -/
theorem current_start {db : Database} {handled : List Request} {config : Config} {env : Env}
    (henv : env.role = .master → env.selected = true) :
    (start db handled config env).Current := by
  obtain ⟨hstatus, hrestored⟩ := start_spec db handled config env
  refine ⟨hstatus, fun hmaster => ?_, fun h => absurd h (by simp [start])⟩
  have hrole : env.role = .master := hstatus.symm.trans hmaster
  exact (hrestored hrole).mpr (henv hrole)

/-- A check of the role. -/
theorem step_wake {env : Env} (h : w.step (.wake .exist env) = some w') :
    w'.sub.ctx = (w.sub.ctx.checkMigration w.sub.db env).1 ∧ w'.observed = env.role ∧
      w'.changed = (w.changed || w.sub.ctx.status != env.role) ∧
      w'.restored = match w.sub.ctx.status, env.role with
        | .replica, .master => queues w.sub.db env w.sub.ctx.sender w'.sub.ctx.sender
        | .master, .master => w.restored
        | _, .replica => false := by
  obtain ⟨sub, hsub, rfl⟩ := Option.map_eq_some_iff.mp h
  refine ⟨?_, rfl, rfl, rfl⟩
  cases Subscriber.transition_of_step hsub with
  | wake hphase => rfl
  | exit result hcause =>
    rcases hcause with ⟨status, env', heq, hne⟩ | heq | heq
    · exact absurd (Subscriber.Event.wake.inj heq).1.symm hne
    · exact absurd heq (by simp)
    · exact absurd heq (by simp)

/-- A step that neither checks the role nor starts a process. -/
theorem step_other (hwake : ∀ env, e ≠ .wake .exist env)
    (hrestart : ∀ config env, e ≠ .restart config env) (h : w.step e = some w') :
    w.sub.ctx.SameRole w'.sub.ctx ∧ w'.observed = w.observed ∧ w'.changed = w.changed ∧
      w'.restored = w.restored := by
  obtain ⟨sub, hsub, rfl⟩ := Option.map_eq_some_iff.mp h
  have hsame := Subscriber.sameRole_of_step (Subscriber.transition_of_step hsub) hwake hrestart
  split
  · exact absurd rfl (hwake _)
  · exact absurd rfl (hrestart _ _)
  · exact ⟨hsame, rfl, rfl, rfl⟩

/-- A check of the role keeps the invariant when the steps of a role change succeed. -/
theorem current_wake {env : Env} (hw : w.Current) (hsafe : w.sub.ctx.MigrationSafe env)
    (h : w.step (.wake .exist env) = some w') : w'.Current := by
  obtain ⟨hctx, hobserved, hchanged, hrestored⟩ := step_wake h
  have hstatus : w'.sub.ctx.status = env.role :=
    hctx ▸ SubscriberContext.checkMigration_status w.sub.ctx w.sub.db env
  rcases eq_or_ne w.sub.ctx.status env.role with hsame | hchange
  · rw [SubscriberContext.checkMigration_same _ _ _ hsame] at hctx
    refine ⟨hstatus.trans hobserved.symm, fun hmaster => ?_, fun h => ?_⟩
    · have hrole : env.role = .master := hstatus.symm.trans hmaster
      rw [hrestored, hsame, hrole]
      exact hw.restored (hsame.trans hrole)
    · rw [hchanged, hsame, bne_self_eq_false, Bool.or_false] at h
      unfold Announced
      rw [hctx]
      exact hw.announced h
  · obtain ⟨-, hlast, hqueued⟩ :=
      SubscriberContext.checkMigration_safe w.sub.db hchange hsafe
    refine ⟨hstatus.trans hobserved.symm, fun hmaster => ?_, fun _ => ?_⟩
    · have hrole : env.role = .master := hstatus.symm.trans hmaster
      have hbefore : w.sub.ctx.status = .replica := by
        rcases SubscriberContext.role_changed hchange with ⟨-, hreplica⟩ | ⟨hreplica, -⟩
        · exact absurd (hrole.symm.trans hreplica) (by simp)
        · exact hreplica
      rw [hrestored, hbefore, hrole, hctx]
      exact hqueued hrole
    · unfold Announced
      rw [hstatus, hctx]
      exact hlast

/-- Every step that meets the condition keeps the invariant. -/
theorem current_step (hw : w.Current) (hok : RoleSafe w e) (h : w.step e = some w') :
    w'.Current := by
  by_cases hwake : ∃ env, e = .wake .exist env
  · obtain ⟨env, rfl⟩ := hwake
    exact current_wake hw hok h
  · by_cases hrestart : ∃ config env, e = .restart config env
    · obtain ⟨config, env, rfl⟩ := hrestart
      obtain ⟨sub, -, rfl⟩ := Option.map_eq_some_iff.mp h
      exact current_start hok
    · obtain ⟨⟨hstatus, hpublished⟩, hobserved, hchanged, hrestored⟩ :=
        step_other (fun env heq => hwake ⟨env, heq⟩)
          (fun config env heq => hrestart ⟨config, env, heq⟩) h
      refine ⟨?_, ?_, ?_⟩
      · rw [hstatus, hobserved]
        exact hw.status_eq
      · rw [hstatus, hrestored]
        exact hw.restored
      · unfold Announced
        rw [hchanged, hstatus, hpublished]
        exact hw.announced

/-- Role changes are handled completely or retried, in a run of a subscriber, exactly when every
step of every role change in it succeeds. -/
theorem role_changes_handled_iff (db : Database) (handled : List Request) (config : Config)
    (env : Env) {es : List Subscriber.Event} {w : Watched}
    (h : Run.run step (start db handled config env) es = some w) :
    ((env.role = .master → env.selected = true) ∧
        Run.RunAll step RoleSafe (start db handled config env) es) ↔
      (∀ pre, pre <+: es → ∀ t, Run.run step (start db handled config env) pre = some t →
        t.Handled) ∧
      ∀ pre env', pre ++ [.wake .exist env'] <+: es → ∀ t t',
        Run.run step (start db handled config env) pre = some t →
          t.step (.wake .exist env') = some t' →
            (t.sub.ctx.checkMigration t.sub.db env').2 = .error () →
              t'.sub.ctx.status = t.sub.ctx.status := by
  constructor
  · rintro ⟨henv, hok⟩
    constructor
    · intro pre hpre t ht
      exact (Run.run_invariant (fun _ _ _ hw hok h => current_step hw hok h) (current_start henv)
        (hok.initial hpre) ht).handled
    · intro pre env' hpre t t' ht hstep herror
      have hsafe : t.sub.ctx.MigrationSafe env' := hok.holds_at hpre ht
      -- Without a role change there is no error, and with one every step succeeds.
      rcases eq_or_ne t.sub.ctx.status env'.role with hsame | hchange
      · rw [SubscriberContext.checkMigration_same _ _ _ hsame] at herror
        exact absurd herror (by simp)
      · have hresult := (SubscriberContext.checkMigration_safe t.sub.db hchange hsafe).1
        exact absurd (hresult.symm.trans herror) (by simp)
  · rintro ⟨hhandled, hretried⟩
    constructor
    · intro hmaster
      obtain ⟨hstatus, hrestored⟩ := start_spec db handled config env
      have hstart := hhandled [] List.nil_prefix _ rfl
      exact (hrestored hmaster).mp (hstart.1 (hstatus.trans hmaster))
    · refine Run.runAll_iff_holds_at.mpr fun pre e hpre t ht => ?_
      obtain ⟨t', hstep, ht'⟩ := Run.exists_step_of_run h hpre ht
      cases e with
      | wake status env' =>
        cases status with
        | exist =>
          by_contra hfails
          obtain ⟨herror, hchange⟩ :=
            SubscriberContext.checkMigration_fails t.sub.db hfails
          have hkept := hretried pre env' hpre t t' ht hstep herror
          rw [(step_wake hstep).1, SubscriberContext.checkMigration_status] at hkept
          exact hchange hkept.symm
        | noExtension => trivial
        | noForeignServer => trivial
      | restart config' env' =>
        intro hmaster
        obtain ⟨sub, -, rfl⟩ := Option.map_eq_some_iff.mp hstep
        obtain ⟨hstatus, hrestored⟩ := start_spec t.sub.db t.sub.handled config' env'
        have hstart := hhandled (pre ++ [.restart config' env']) hpre _ ht'
        exact (hrestored hmaster).mp (hstart.1 (hstatus.trans hmaster))
      | _ => trivial

/-- What a subscriber finds around it. -/
def found (role : PgInstanceStatus) (selected : Bool) : Env where
  role
  selected
  settings := { listen_addresses := some "*", port := some "5432", patroniName := id }
  published := true

/-- A promotion during which the subscriptions cannot be read: the status is `Master` from then on,
with nothing restored, and the next check sees no change. -/
theorem promotion_lost :
    ∃ w, Run.run step (start ⟨[("orders", "public.f")], []⟩ [] (validatorConfig [])
        (found .replica true))
      [.wake .exist (found .master false), .sharedEmpty, .internalEmpty,
        .wake .exist (found .master true)] = some w ∧
    w.sub.ctx.status = .master ∧ w.sub.ctx.sender = [] ∧ w.sub.ctx.nats.subscriptions = ∅ ∧
      ¬ w.Handled := by
  refine ⟨_, rfl, rfl, rfl, rfl, ?_⟩
  intro hhandled
  exact absurd (hhandled.1 rfl) (by decide)

/-- A promotion whose steps all succeed. -/
theorem promotion_handled : ∃ w, Run.run step (start ⟨[("orders", "public.f")], []⟩ []
      (validatorConfig []) (found .replica true)) [.wake .exist (found .master true)] = some w ∧
    w.Handled := by
  have hrun : Run.run step (start ⟨[("orders", "public.f")], []⟩ [] (validatorConfig [])
      (found .replica true)) [.wake .exist (found .master true)] = some _ := rfl
  have hsafe : Run.RunAll step RoleSafe (start ⟨[("orders", "public.f")], []⟩ []
      (validatorConfig []) (found .replica true)) [.wake .exist (found .master true)] :=
    ⟨fun _ => ⟨fun _ => rfl, by decide, rfl⟩, trivial⟩
  have hiff := role_changes_handled_iff ⟨[("orders", "public.f")], []⟩ [] (validatorConfig [])
    (found .replica true) hrun
  exact ⟨_, hrun, (hiff.mp ⟨fun _ => rfl, hsafe⟩).1 _ (List.prefix_refl _) _ hrun⟩

end Watched

end PgNats
