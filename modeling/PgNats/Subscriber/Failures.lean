import Mathlib.Data.List.Forall2
import PgNats.Subscriber.Handlers

/-!
# Reports of failed subscriptions

A handler task whose `subscribe` fails puts `UnsubscribeSubject` into the internal channel and ends.
The message names the subject only, and an abort does not take it back. By the time that the main
loop handles it, the subject may have another handler, of a later `Subscribe` or of a reconnect, and
`unsubscribe_subject` then removes an entry that has nothing to do with the failure.

`Attributed` is a subscriber with the task that each message of the channel comes from.
`only_own_removed_iff` says when no report removes the entry of another task: when each report that
a master handles is from a task that is not aborted, or finds no entry for its subject.
-/

namespace PgNats

open Run (RunAll)

/-- The subjects of the tasks, aborted or not. -/
def Runtime.subjects (rt : Runtime) : List String := rt.tasks.map Task.subject

/-- The tasks that are there stay when no subject changes. -/
theorem Runtime.prefix_of_subjects_eq {rt rt' : Runtime} (h : rt'.subjects = rt.subjects) :
    rt.subjects <+: rt'.subjects :=
  ⟨[], (List.append_nil _).trans h.symm⟩

namespace NatsConnectionState

variable {nats : NatsConnectionState} {rt : Runtime} {subject fn_name : String}

/-- An abort keeps the subjects. -/
theorem subjects_abort (handler : ℕ) : (rt.abort handler).subjects = rt.subjects := by
  unfold Runtime.subjects Runtime.abort
  dsimp only
  -- The abort sets a flag of one task, so the subjects agree at every position.
  apply List.ext_getElem?
  intro i
  rw [List.getElem?_map, List.getElem?_map, List.getElem?_modify]
  cases rt.tasks[i]? with
  | none => rfl
  | some task =>
    rcases eq_or_ne handler i with rfl | hne
    · simp
    · simp [hne]

/-- A new task's subject comes last. -/
theorem subjects_spawn (client : Client) :
    (rt.spawn client subject).1.subjects = rt.subjects ++ [subject] := by
  unfold Runtime.subjects Runtime.spawn
  rw [List.map_append]
  rfl

/-- `subscribe` leaves the tasks that are there. -/
theorem subjects_subscribe :
    rt.subjects <+: (nats.subscribe subject fn_name rt).2.subjects := by
  unfold subscribe
  cases nats.subscriptions.lookup subject with
  | some sub => exact List.prefix_rfl
  | none =>
    show _ <+: (rt.spawn nats.client subject).1.subjects
    rw [subjects_spawn]
    exact List.prefix_append _ _

/-- `unsubscribe` leaves the tasks that are there. -/
theorem subjects_unsubscribe :
    rt.subjects <+: (nats.unsubscribe subject fn_name rt).2.subjects := by
  unfold unsubscribe
  cases nats.subscriptions.lookup subject with
  | none => exact List.prefix_rfl
  | some sub =>
    dsimp only
    split_ifs
    · exact Runtime.prefix_of_subjects_eq (subjects_abort sub.handler)
    · exact List.prefix_rfl

/-- `unsubscribe_subject` leaves the tasks that are there. -/
theorem subjects_unsubscribeSubject :
    rt.subjects <+: (nats.unsubscribeSubject subject rt).2.subjects := by
  unfold unsubscribeSubject
  cases nats.subscriptions.lookup subject with
  | none => exact List.prefix_rfl
  | some sub =>
    exact Runtime.prefix_of_subjects_eq (subjects_abort sub.handler)

/-- `unsubscribe_all` leaves the tasks that are there. -/
theorem subjects_unsubscribeAll : (nats.unsubscribeAll rt).2.2.subjects = rt.subjects := by
  unfold unsubscribeAll
  dsimp only
  generalize nats.subscriptions.values = subs
  induction subs generalizing rt with
  | nil => rfl
  | cons sub subs ih => exact ih.trans (subjects_abort sub.handler)

/-- `reconnect_nats` leaves the tasks that are there. -/
theorem subjects_reconnectNats {opts : NatsConnectionOptions} {connected : Bool} :
    rt.subjects <+: (nats.reconnectNats opts rt connected).2.1.subjects := by
  unfold reconnectNats
  split_ifs
  · have haborted : (nats.unsubscribeAll (rt.connect opts).1).2.2.subjects = rt.subjects :=
      subjects_unsubscribeAll
    refine HashMap.mapAccum_state (fun rt' : Runtime => rt.subjects <+: rt'.subjects) ?_ ?_ _
    · intro rt' s sub h
      show _ <+: (rt'.spawn _ s).1.subjects
      rw [subjects_spawn]
      exact h.trans (List.prefix_append _ _)
    · exact Runtime.prefix_of_subjects_eq haborted
  · exact List.prefix_rfl

end NatsConnectionState

namespace SubscriberContext

variable {ctx : SubscriberContext} {db : Database}

/-- The check of the role leaves the tasks that are there. -/
theorem subjects_checkMigration (env : Env) :
    (ctx.checkMigration db env).1.rt.subjects = ctx.rt.subjects := by
  rcases ctx.checkMigration_cases db env with
    ⟨-, hctx⟩ | ⟨-, -, published, hctx⟩ | ⟨-, -, published, hctx⟩
  · rw [hctx]
  · rw [hctx]
    exact NatsConnectionState.subjects_unsubscribeAll
  · rw [hctx]
    rfl

/-- A new configuration leaves the tasks that are there. -/
theorem subjects_applyConfig (config : Config) (connected : Bool) :
    ctx.rt.subjects <+: (ctx.applyConfig config connected).1.rt.subjects := by
  rcases ctx.applyConfig_cases config connected with ⟨-, happly⟩ | ⟨-, -, happly⟩ | ⟨-, -, happly⟩
  · exact Runtime.prefix_of_subjects_eq (by rw [happly])
  · exact Runtime.prefix_of_subjects_eq (by rw [happly])
  · rw [happly]
    exact NatsConnectionState.subjects_reconnectNats

/-- A message of the channel leaves the tasks that are there. -/
theorem subjects_handleInternalMessage (ctx : SubscriberContext)
    (outcome : String → Except CallError Unit) (msg : InternalWorkerMessage) :
    ctx.rt.subjects <+: (handleInternalMessage ctx db outcome msg).1.rt.subjects := by
  cases msg with
  | subscribe register subject fn_name => exact NatsConnectionState.subjects_subscribe
  | unsubscribe subject fn_name => exact NatsConnectionState.subjects_unsubscribe
  | callbackCall subject data => exact List.prefix_rfl
  | unsubscribeSubject subject reason => exact NatsConnectionState.subjects_unsubscribeSubject

end SubscriberContext

/-- A subscriber with the task that each message of its channel comes from, if it comes from one. -/
structure Attributed where
  /-- The subscriber. -/
  sub : Subscriber
  /-- The handles of the tasks, in the order of the messages. -/
  reporters : List (Option ℕ)
  deriving DecidableEq

namespace Attributed

/-- The channel of this length, of which the first messages come from these tasks, and the others
from the main loop. -/
def pad (reporters : List (Option ℕ)) (length : ℕ) : List (Option ℕ) :=
  reporters ++ List.replicate (length - reporters.length) none

/-- A new process. -/
def start (db : Database) (handled : List Request) (config : Config) (env : Env) : Attributed :=
  let sub := Subscriber.start db handled config env
  { sub, reporters := pad [] sub.ctx.sender.length }

/-- One step. -/
def step (a : Attributed) (e : Subscriber.Event) : Option Attributed :=
  (a.sub.step e).map fun sub =>
    let reporters := match e with
      | .report handler _ => a.reporters ++ [some handler]
      | .internalRecv _ => a.reporters.tail
      | .restart _ _ => []
      | _ => a.reporters
    { sub, reporters := pad reporters sub.ctx.sender.length }

/-- A message may come from the task: it is a report of the task. A message that comes from none is
no report of a failure. -/
def From (rt : Runtime) : Option ℕ → InternalWorkerMessage → Prop
  | some handler, msg =>
    ∃ task result, rt.subjects[handler]? = some task.subject ∧ msg = Subscriber.reported task result
  | none, msg => ∀ subject reason, msg ≠ .unsubscribeSubject subject reason

/-- The handlers fit the map, and the messages come from where they are said to come. -/
structure Traced (a : Attributed) : Prop where
  /-- The handlers fit the map. -/
  handlers : a.sub.ctx.Handlers
  /-- Each message comes from its task. -/
  messages : List.Forall₂ (From a.sub.ctx.rt) a.reporters a.sub.ctx.sender

/-- New tasks change nothing about where a message comes from. -/
theorem From.of_prefix {rt rt' : Runtime} (hsubjects : rt.subjects <+: rt'.subjects)
    {reporter : Option ℕ} {msg : InternalWorkerMessage} (h : From rt reporter msg) :
    From rt' reporter msg := by
  cases reporter with
  | none => exact h
  | some handler =>
    obtain ⟨task, result, hhandler, hmsg⟩ := h
    obtain ⟨more, hmore⟩ := hsubjects
    refine ⟨task, result, ?_, hmsg⟩
    rw [← hmore, List.getElem?_append_left (List.getElem?_eq_some_iff.mp hhandler).1]
    exact hhandler

/-- Messages of the main loop at the end of the channel come from no task. -/
theorem forall₂_pad {rt rt' : Runtime} {reporters : List (Option ℕ)}
    {sender new : List InternalWorkerMessage} (h : List.Forall₂ (From rt) reporters sender)
    (hsubjects : rt.subjects <+: rt'.subjects)
    (hnew : ∀ msg ∈ new, ∀ subject reason, msg ≠ .unsubscribeSubject subject reason) :
    List.Forall₂ (From rt') (pad reporters (sender ++ new).length) (sender ++ new) := by
  -- There is a reporter for each of the old messages, so only the new ones are padded.
  have hlength : (sender ++ new).length - reporters.length = new.length := by
    rw [List.length_append, h.length_eq]
    omega
  unfold pad
  rw [hlength]
  refine List.rel_append (h.imp fun _ _ => From.of_prefix hsubjects) ?_
  clear hlength
  induction new with
  | nil => exact List.Forall₂.nil
  | cons msg new ih =>
    rw [List.length_cons, List.replicate_succ]
    exact List.Forall₂.cons (hnew msg List.mem_cons_self)
      (ih fun msg' hmem => hnew msg' (List.mem_cons_of_mem _ hmem))

/-- Without new messages of the main loop, the channel is as it was. -/
theorem forall₂_pad_self {rt rt' : Runtime} {reporters : List (Option ℕ)}
    {sender : List InternalWorkerMessage} (h : List.Forall₂ (From rt) reporters sender)
    (hsubjects : rt.subjects <+: rt'.subjects) :
    List.Forall₂ (From rt') (pad reporters sender.length) sender := by
  have hnone : List.Forall₂ (From rt') (pad reporters (sender ++ []).length) (sender ++ []) :=
    forall₂_pad h hsubjects fun msg hmem => absurd hmem List.not_mem_nil
  rwa [List.append_nil] at hnone

/-- What is restored is no report. -/
theorem forall₂_pad_of_restores {rt rt' : Runtime} {reporters : List (Option ℕ)} {db : Database}
    {before after : List InternalWorkerMessage} (h : List.Forall₂ (From rt) reporters before)
    (hsubjects : rt.subjects <+: rt'.subjects) (hrestores : Restores db before after) :
    List.Forall₂ (From rt') (pad reporters after.length) after := by
  obtain ⟨rows, -, rfl⟩ := hrestores
  refine forall₂_pad h hsubjects fun msg hmem subject reason => ?_
  obtain ⟨row, -, rfl⟩ := List.mem_map.mp hmem
  simp

/-- A new process has no reports. -/
theorem traced_start (db : Database) (handled : List Request) (config : Config) (env : Env) :
    Traced (start db handled config env) :=
  ⟨Subscriber.handlers_start db handled config env,
    forall₂_pad_of_restores List.Forall₂.nil List.prefix_rfl
      (Subscriber.restores_start db handled config env)⟩

/-- A message of the queue leaves the tasks, and its request is no report. -/
theorem forall₂_handleMessageFromSharedQueue {ctx : SubscriberContext}
    {reporters : List (Option ℕ)} (h : List.Forall₂ (From ctx.rt) reporters ctx.sender)
    (connected : Bool) (msg : SubscriberMessage) :
    List.Forall₂ (From (handleMessageFromSharedQueue ctx connected msg).rt)
      (pad reporters (handleMessageFromSharedQueue ctx connected msg).sender.length)
      (handleMessageFromSharedQueue ctx connected msg).sender := by
  cases msg with
  | newConfig config =>
    show List.Forall₂ _ (pad _ (ctx.applyConfig config connected).1.sender.length)
      (ctx.applyConfig config connected).1.sender
    rw [(ctx.applyConfig_frame config connected).1]
    exact forall₂_pad_self h (SubscriberContext.subjects_applyConfig config connected)
  | subscribe subject fn_name => exact forall₂_pad h List.prefix_rfl (by simp)
  | unsubscribe subject fn_name => exact forall₂_pad h List.prefix_rfl (by simp)

/-- Every step keeps the origins of the messages. -/
theorem traced_step {a a' : Attributed} {e : Subscriber.Event} (h : Traced a)
    (hstep : step a e = some a') : Traced a' := by
  obtain ⟨sub, hsub, rfl⟩ := Option.map_eq_some_iff.mp hstep
  refine ⟨Subscriber.handlers_step h.handlers hsub, ?_⟩
  cases Subscriber.transition_of_step hsub with
  | deliver msg hlive => exact forall₂_pad_self h.messages List.prefix_rfl
  | @report handler task result hlive htask =>
    refine forall₂_pad_self (List.rel_append h.messages (List.Forall₂.cons ?_ .nil))
      List.prefix_rfl
    refine ⟨task, result, ?_, rfl⟩
    unfold Runtime.subjects
    rw [List.getElem?_map, htask]
    rfl
  | @wake env hphase =>
    exact forall₂_pad_of_restores h.messages
      (Runtime.prefix_of_subjects_eq (SubscriberContext.subjects_checkMigration env))
      (SubscriberContext.restores_checkMigration a.sub.ctx a.sub.db env)
  | sharedRecv hphase hrecv => exact forall₂_handleMessageFromSharedQueue h.messages _ _
  | sharedEmpty hphase => exact forall₂_pad_self h.messages List.prefix_rfl
  | @internalRecv outcome msg rest hphase hsender =>
    have hmessages := h.messages
    rw [hsender] at hmessages
    -- The first message and its reporter leave together.
    obtain ⟨reporter, reporters, -, hrest, hreporters⟩ := List.forall₂_cons_right_iff.mp hmessages
    rw [hreporters]
    dsimp only [List.tail_cons]
    cases hrole : a.sub.ctx.status with
    | replica =>
      rw [Subscriber.internal_of_replica hrole]
      exact forall₂_pad_self hrest List.prefix_rfl
    | master =>
      rw [Subscriber.internal_of_master hrole]
      dsimp only
      rw [handleInternalMessage_sender]
      exact forall₂_pad_self hrest
        (SubscriberContext.subjects_handleInternalMessage { a.sub.ctx with sender := rest }
          outcome msg)
  | internalEmpty hphase hsender => exact forall₂_pad_self h.messages List.prefix_rfl
  | exit result hcause =>
    rcases hcause with ⟨status, env, rfl, -⟩ | rfl | rfl <;>
      exact forall₂_pad_self h.messages List.prefix_rfl
  | restart config env => exact (traced_start _ _ _ _).messages

/-- The report of a failure that is handled next, if the next message is one: the task that it comes
from and the subject that it names. -/
def report? (a : Attributed) : Option (ℕ × String) :=
  match a.reporters, a.sub.ctx.sender with
  | some handler :: _, .unsubscribeSubject subject _ :: _ => some (handler, subject)
  | _, _ => none

/-- A report that is handled removes no entry but that of the task that it comes from. -/
def RemovesOnlyOwn (a : Attributed) (e : Subscriber.Event) (a' : Attributed) : Prop :=
  ∀ outcome handler subject, e = .internalRecv outcome → a.report? = some (handler, subject) →
    ∀ s sub, a.sub.ctx.nats.subscriptions.lookup s = some sub →
      a'.sub.ctx.nats.subscriptions.lookup s = none → sub.handler = handler

/-- The condition on a step: a report that a master handles is from a task that is not aborted, or
its subject is not in the map. -/
def FromCurrent (a : Attributed) : Subscriber.Event → Prop
  | .internalRecv _ => a.sub.phase = .internal → a.sub.ctx.status = .master →
    ∀ handler subject, a.report? = some (handler, subject) →
      (∃ task, a.sub.ctx.rt.tasks[handler]? = some task ∧ task.aborted = false) ∨
        a.sub.ctx.nats.subscriptions.lookup subject = none
  | _ => True

/-- The report that is handled next is at the head of the channel, and names the subject of its
task. -/
theorem Traced.report {a : Attributed} (h : Traced a) {handler : ℕ} {subject : String}
    (hreport : a.report? = some (handler, subject)) :
    (∃ reason rest, a.sub.ctx.sender = .unsubscribeSubject subject reason :: rest) ∧
      a.sub.ctx.rt.subjects[handler]? = some subject := by
  have hmessages := h.messages
  unfold report? at hreport
  split at hreport
  · next reporters subject' reason rest hreporters hsender =>
    obtain ⟨rfl, rfl⟩ := Prod.mk.inj (Option.some.inj hreport)
    rw [hreporters, hsender] at hmessages
    obtain ⟨⟨task, result, htask, hmsg⟩, -⟩ := List.forall₂_cons.mp hmessages
    refine ⟨⟨reason, rest, hsender⟩, ?_⟩
    rw [htask]
    cases result with
    | ok data => exact absurd hmsg (by simp [Subscriber.reported])
    | error reason' => rw [(InternalWorkerMessage.unsubscribeSubject.inj hmsg).1]
  · exact absurd hreport (by simp)

/-- A master that handles a report removes the entry of its subject, and no other. -/
theorem lookup_internal_report {s : Subscriber} (hmaster : s.ctx.status = .master)
    (outcome : String → Except CallError Unit) (subject reason : String)
    (rest : List InternalWorkerMessage) (subject' : String) :
    (s.internal outcome (.unsubscribeSubject subject reason) rest).ctx.nats.subscriptions.lookup
        subject' =
      if subject' = subject then none else s.ctx.nats.subscriptions.lookup subject' := by
  rw [Subscriber.internal_of_master hmaster]
  show (s.ctx.nats.unsubscribeSubject subject s.ctx.rt).1.subscriptions.lookup subject' = _
  unfold NatsConnectionState.unsubscribeSubject
  cases hlook : s.ctx.nats.subscriptions.lookup subject with
  | none =>
    split_ifs with heq
    · rw [heq]
      exact hlook
    · rfl
  | some sub =>
    dsimp only
    split_ifs with heq
    · rw [heq, AList.lookup_erase]
    · rw [AList.lookup_erase_ne heq]

/-- A step removes entries of the reporting task only, exactly when its report is from a task that
is not aborted or finds no entry. -/
theorem removesOnlyOwn_iff {a : Attributed} (h : Traced a) (e : Subscriber.Event) :
    (∀ a', step a e = some a' → RemovesOnlyOwn a e a') ↔ FromCurrent a e := by
  cases e with
  | internalRecv outcome =>
    constructor
    · intro hall hphase hmaster handler subject hreport
      obtain ⟨⟨reason, rest, hsender⟩, -⟩ := h.report hreport
      rw [or_iff_not_imp_right]
      intro hlook
      obtain ⟨sub, hsub⟩ := Option.ne_none_iff_exists'.mp hlook
      have hstep := Subscriber.step_internalRecv hphase hsender outcome
      -- The entry is removed, so its handler is the task that reported, and it is live.
      have hgone := (lookup_internal_report hmaster outcome subject reason rest subject).trans
        (if_pos rfl)
      have hown := hall _ (congrArg (Option.map _) hstep) outcome handler subject rfl hreport
        subject sub hsub hgone
      exact ⟨_, hown ▸ h.handlers.live subject sub hsub, rfl⟩
    · rintro hok a' hstep outcome' handler subject - hreport s sub hsub hgone
      obtain ⟨⟨reason, rest, hsender⟩, hsubject⟩ := h.report hreport
      obtain ⟨sub', hsub', rfl⟩ := Option.map_eq_some_iff.mp hstep
      cases Subscriber.transition_of_step hsub' with
      | exit result hcause => simp at hcause
      | @internalRecv _ msg rest' hphase hsender' =>
        obtain ⟨rfl, rfl⟩ := List.cons.inj (hsender'.symm.trans hsender)
        dsimp only at hgone
        cases hstatus : a.sub.ctx.status with
        | replica =>
          -- A replica drops the report.
          rw [Subscriber.internal_of_replica hstatus] at hgone
          exact absurd (hsub.symm.trans hgone) (by simp)
        | master =>
          -- The entry that is gone is that of the report's subject.
          rw [lookup_internal_report hstatus] at hgone
          split_ifs at hgone with hs
          · subst hs
            rcases hok hphase hstatus handler s hreport with ⟨task, htask, hlive⟩ | hnone
            · obtain ⟨-, own, hown, hhandler⟩ := h.handlers.of_live htask hlive
              have hnamed : task.subject = s := by
                unfold Runtime.subjects at hsubject
                rw [List.getElem?_map, htask] at hsubject
                exact Option.some.inj hsubject
              rw [hnamed] at hown
              rw [Option.some.inj (hsub.symm.trans hown)]
              exact hhandler
            · exact absurd (hsub.symm.trans hnone) (by simp)
          · exact absurd (hsub.symm.trans hgone) (by simp)
  | _ => exact iff_of_true (fun _ _ _ _ _ heq => absurd heq (by simp)) trivial

/-- In a run of the main loop, no report of a failed subscription removes the entry of another task,
exactly when each report that a master handles is from a task that is not aborted, or finds no entry
for its subject. -/
theorem only_own_removed_iff (db : Database) (config : Config) (env : Env)
    (es : List Subscriber.Event) :
    (∀ pre e, pre ++ [e] <+: es → ∀ a a', Run.run step (start db [] config env) pre = some a →
        step a e = some a' → RemovesOnlyOwn a e a') ↔
      RunAll step FromCurrent (start db [] config env) es :=
  Run.forall_step_iff_runAll (fun _ _ _ => traced_step) (fun _ e h => removesOnlyOwn_iff h e)
    (traced_start db [] config env) es

/-- A subscription fails on the old connection, and its report is handled after a reconnect: it
removes the subject's entry, whose handler is the task on the new connection. -/
theorem new_subscription_removed :
    ∃ a a' sub, Run.run step
        (start ⟨[("a", "f")], []⟩ [] (validatorConfig []) ⟨.master, true, ⟨none, none, id⟩, true⟩)
        [.wake .exist ⟨.master, true, ⟨none, none, id⟩, true⟩, .sharedEmpty,
          .internalRecv fun _ => .ok (), .internalEmpty, .report 0 (.error "timed out"),
          .deliver (.newConfig (validatorConfig ["port=4223"])),
          .wake .exist ⟨.master, true, ⟨none, none, id⟩, true⟩, .sharedRecv true, .sharedEmpty] =
        some a ∧
      step a (.internalRecv fun _ => .ok ()) = some a' ∧
      a.sub.ctx.nats.subscriptions.lookup "a" = some sub ∧
      a.sub.ctx.rt.tasks[sub.handler]? =
        some { client := a.sub.ctx.nats.client, subject := "a", aborted := false } ∧
      a'.sub.ctx.nats.subscriptions = ∅ ∧
      ¬ RemovesOnlyOwn a (.internalRecv fun _ => .ok ()) a' := by
  obtain ⟨a, a', sub, hrun, hstep, hsub, htask, hempty, hreport, hother⟩ : ∃ a a' sub, Run.run step
      (start ⟨[("a", "f")], []⟩ [] (validatorConfig []) ⟨.master, true, ⟨none, none, id⟩, true⟩)
      [.wake .exist ⟨.master, true, ⟨none, none, id⟩, true⟩, .sharedEmpty,
        .internalRecv fun _ => .ok (), .internalEmpty, .report 0 (.error "timed out"),
        .deliver (.newConfig (validatorConfig ["port=4223"])),
        .wake .exist ⟨.master, true, ⟨none, none, id⟩, true⟩, .sharedRecv true, .sharedEmpty] =
      some a ∧
      step a (.internalRecv fun _ => .ok ()) = some a' ∧
      a.sub.ctx.nats.subscriptions.lookup "a" = some sub ∧
      a.sub.ctx.rt.tasks[sub.handler]? =
        some { client := a.sub.ctx.nats.client, subject := "a", aborted := false } ∧
      a'.sub.ctx.nats.subscriptions = ∅ ∧ a.report? = some (0, "a") ∧ sub.handler ≠ 0 :=
    ⟨_, _, _, rfl, rfl, rfl, rfl, rfl, rfl, by decide⟩
  refine ⟨a, a', sub, hrun, hstep, hsub, htask, hempty, fun hown => hother ?_⟩
  exact hown _ 0 "a" rfl hreport "a" sub hsub (by rw [hempty]; rfl)

end Attributed

end PgNats
