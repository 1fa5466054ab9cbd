import PgNats.Lib.Run
import PgNats.Subscriber.Callbacks
import PgNats.Subscriber.Loop

/-!
# What a callback function is called with

A message that a handler task gets goes into the internal channel, and the main loop takes it out
and calls each function of its subject. `callsOf` is what a function was called with so far,
`pending` what the channel still holds for it, and `arriving` what a step brings in.
`Account` lists what a step can do to the first two: leave them, handle the first message of the
channel, or start over with an empty channel.

`called_at_most_once` holds of every run: whatever is unsubscribed, lost with a process, or dropped
on a replica, a function is called for a part of the messages, each at most once and in their order.
`called_in_order` is for the time in which a function is registered: it is called for all of them.
-/

namespace PgNats

/-- The payloads that the function was called with. -/
def Database.callsOf (db : Database) (f : String) : List (List UInt8) :=
  db.calls.filterMap fun call => if call.1 = f then some call.2 else none

/-- The payload of a message that arrived on one of the subjects. -/
def InternalWorkerMessage.payload? (subjects : String → Bool) :
    InternalWorkerMessage → Option (List UInt8)
  | .callbackCall subject data => if subjects subject then some data else none
  | _ => none

/-- Each element that is `f` gives the same. -/
theorem filterMap_ite_eq {α β : Type} [DecidableEq α] (f : α) (b : β) (l : List α) :
    (l.filterMap fun a => if a = f then some b else none) = List.replicate (l.count f) b := by
  induction l with
  | nil => rfl
  | cons a l ih =>
    rw [filterMap_cons_toList, ih]
    rcases eq_or_ne a f with rfl | hne
    · rw [if_pos rfl, List.count_cons_self, List.replicate_succ]
      rfl
    · rw [if_neg hne, List.count_cons_of_ne hne]
      rfl

/-- Whatever the statements give, there are functions that they call. -/
theorem exists_functions (outcome : String → Except CallError Unit) :
    ∃ functions : Functions, functions.call = callFunction outcome := by
  refine ⟨fun callback => some fun _ =>
    match outcome callback with
    | .ok () => .returned
    | .error .notFound => .raised ERRCODE_UNDEFINED_FUNCTION ""
    | .error (.other text) => .failed text, ?_⟩
  funext db callback data
  unfold Functions.call
  congr 1
  funext callback
  unfold Functions.select
  dsimp only
  cases outcome callback with
  | ok u => rfl
  | error e =>
    cases e with
    | notFound => exact Completion.toResult_eq_notFound.mpr ⟨"", rfl⟩
    | other text => rfl

namespace NatsConnectionState

variable {nats : NatsConnectionState} {subject f : String} {data : List UInt8} {db : Database}
  {outcome : String → Except CallError Unit}

/-- A message calls a function as often as it is in the set of its subject, if its name is accepted.
-/
theorem exists_callsOf_runCallbacks (nats : NatsConnectionState) (subject f : String)
    (data : List UInt8) (outcome : String → Except CallError Unit) (db : Database) :
    ∃ order : List String, order.Nodup ∧ (f ∈ order ↔ Registered nats subject f) ∧
      (nats.runCallbacks subject data (callFunction outcome) db).2.callsOf f =
        db.callsOf f ++ List.replicate ((order.filter callable).count f) data := by
  obtain ⟨functions, hfunctions⟩ := exists_functions outcome
  obtain ⟨order, hnodup, hmem, hdb⟩ := runCallbacks_calls functions nats subject data db
  refine ⟨order, hnodup, hmem f, ?_⟩
  unfold Database.callsOf
  rw [← hfunctions, hdb, foldl_calls, List.filterMap_append, List.filterMap_map]
  congr 1
  exact filterMap_ite_eq f data _

/-- A message calls a function of its subject once. -/
theorem callsOf_runCallbacks (hf : callable f = true) (hregistered : Registered nats subject f) :
    (nats.runCallbacks subject data (callFunction outcome) db).2.callsOf f =
      db.callsOf f ++ [data] := by
  obtain ⟨order, hnodup, hmem, hcalls⟩ :=
    exists_callsOf_runCallbacks nats subject f data outcome db
  rw [hcalls, List.count_filter hf, List.count_eq_one_of_mem hnodup (hmem.mpr hregistered)]
  rfl

/-- A message does not call a function of other subjects, nor one whose name is not accepted. -/
theorem callsOf_runCallbacks_of_not (hnot : ¬ (callable f = true ∧ Registered nats subject f)) :
    (nats.runCallbacks subject data (callFunction outcome) db).2.callsOf f = db.callsOf f := by
  obtain ⟨order, -, hmem, hcalls⟩ := exists_callsOf_runCallbacks nats subject f data outcome db
  have hzero : (order.filter callable).count f = 0 := by
    refine List.count_eq_zero.mpr fun hfilter => hnot ?_
    obtain ⟨horder, hf⟩ := List.mem_filter.mp hfilter
    exact ⟨hf, hmem.mp horder⟩
  rw [hcalls, hzero]
  exact List.append_nil _

end NatsConnectionState

namespace Subscriber

open Run (RunAll)

variable {subjects : String → Bool} {f : String} {s s' : Subscriber} {e : Event}

/-- The payloads of the channel that arrived on the subjects. -/
def pending (s : Subscriber) (subjects : String → Bool) : List (List UInt8) :=
  s.ctx.sender.filterMap (InternalWorkerMessage.payload? subjects)

/-- The payload that a task of one of the subjects got in this step. -/
def arriving (subjects : String → Bool) (s : Subscriber) : Event → Option (List UInt8)
  | .report handler result =>
    s.ctx.rt.tasks[handler]?.bind fun task => (reported task result).payload? subjects
  | _ => none

/-- What a step can do to the calls of a function and to the channel. -/
inductive Account (f : String) (subjects : String → Bool) (s : Subscriber) (e : Event)
    (s' : Subscriber) : Prop where
  /-- No message is handled, or one that calls nothing. -/
  | kept (hcalls : s'.db.callsOf f = s.db.callsOf f)
    (hpending : s'.pending subjects = s.pending subjects ++ (arriving subjects s e).toList)
  /-- The first message of the channel is handled, and its functions are called. -/
  | called {outcome : String → Except CallError Unit} {subject : String} {data : List UInt8}
    {rest : List InternalWorkerMessage} (he : e = .internalRecv outcome)
    (hsender : s.ctx.sender = .callbackCall subject data :: rest) (hmaster : s.ctx.status = .master)
    (hcalled : callable f = true → s.ctx.nats.Registered subject f →
      s'.db.callsOf f = s.db.callsOf f ++ [data])
    (hspared : ¬ (callable f = true ∧ s.ctx.nats.Registered subject f) →
      s'.db.callsOf f = s.db.callsOf f)
    (hrest : s'.ctx.sender = rest)
  /-- A replica drops the first message of the channel. -/
  | dropped {outcome : String → Except CallError Unit} {subject : String} {data : List UInt8}
    {rest : List InternalWorkerMessage} (he : e = .internalRecv outcome)
    (hsender : s.ctx.sender = .callbackCall subject data :: rest)
    (hreplica : s.ctx.status = .replica)
    (hcalls : s'.db.callsOf f = s.db.callsOf f) (hrest : s'.ctx.sender = rest)
  /-- A new process has an empty channel. -/
  | restarted {config : Config} {env : Env} (he : e = .restart config env)
    (hcalls : s'.db.callsOf f = s.db.callsOf f) (hpending : s'.pending subjects = [])

/-- What `restore_state` queues is no payload. -/
theorem filterMap_payload_restored (rows : List (String × String)) :
    (rows.map fun row => InternalWorkerMessage.subscribe false row.1 row.2).filterMap
      (InternalWorkerMessage.payload? subjects) = [] := by
  rw [List.filterMap_map]
  exact List.filterMap_eq_nil_iff.mpr fun row _ => rfl

/-- A new process has no payload in its channel. -/
theorem pending_start (db : Database) (handled : List Request) (config : Config) (env : Env) :
    (start db handled config env).pending subjects = [] := by
  obtain ⟨published, hstart⟩ := start_eq db handled config env
  unfold pending
  rw [hstart]
  show List.filterMap _ (if _ then _ else _) = _
  split_ifs
  · exact filterMap_payload_restored _
  · rfl

/-- The check of the role brings no payload. -/
theorem pending_checkMigration (db : Database) (ctx : SubscriberContext) (env : Env) :
    (ctx.checkMigration db env).1.sender.filterMap (InternalWorkerMessage.payload? subjects) =
      ctx.sender.filterMap (InternalWorkerMessage.payload? subjects) := by
  obtain ⟨rows, -, hsender⟩ := ctx.restores_checkMigration db env
  rw [hsender, List.filterMap_append, filterMap_payload_restored, List.append_nil]

/-- A message of the queue brings no payload. -/
theorem pending_handleMessage (ctx : SubscriberContext) (connected : Bool)
    (msg : SubscriberMessage) :
    (handleMessageFromSharedQueue ctx connected msg).sender.filterMap
        (InternalWorkerMessage.payload? subjects) =
      ctx.sender.filterMap (InternalWorkerMessage.payload? subjects) := by
  cases msg with
  | newConfig config =>
    show (ctx.applyConfig config connected).1.sender.filterMap _ = _
    rw [(ctx.applyConfig_frame config connected).1]
  | subscribe subject fn_name => exact List.filterMap_append.trans (List.append_nil _)
  | unsubscribe subject fn_name => exact List.filterMap_append.trans (List.append_nil _)

/-- A statement on the table calls nothing. -/
theorem callsOf_insert_delete (db : Database) (register : Bool) (subject fn_name : String) :
    (if register then (insertSubjectCallback db subject fn_name).1 else db).callsOf f =
        db.callsOf f ∧
      (deleteSubjectCallback db subject fn_name).1.callsOf f = db.callsOf f := by
  refine ⟨?_, rfl⟩
  unfold insertSubjectCallback
  split_ifs <;> rfl

/-- A message without a payload leaves the channel, and no payload with it. -/
theorem pending_of_payload_none {msg : InternalWorkerMessage} {rest : List InternalWorkerMessage}
    (hsender : s.ctx.sender = msg :: rest) (hnone : msg.payload? subjects = none) :
    rest.filterMap (InternalWorkerMessage.payload? subjects) = s.pending subjects ++ [] := by
  unfold pending
  rw [hsender, List.filterMap_cons_none hnone, List.append_nil]

/-- A message of the channel is one that arrived, or has no payload and calls nothing. -/
theorem account_internal {outcome : String → Except CallError Unit} {msg : InternalWorkerMessage}
    {rest : List InternalWorkerMessage} (hsender : s.ctx.sender = msg :: rest) :
    Account f subjects s (.internalRecv outcome) (s.internal outcome msg rest) := by
  -- A replica drops the message, whatever it is.
  cases hrole : s.ctx.status with
  | replica =>
    rw [internal_of_replica hrole]
    cases msg with
    | callbackCall subject data => exact .dropped rfl hsender hrole rfl rfl
    | _ => exact .kept rfl (pending_of_payload_none hsender rfl)
  | master =>
    rw [internal_of_master hrole]
    cases msg with
    | callbackCall subject data =>
      exact .called rfl hsender hrole NatsConnectionState.callsOf_runCallbacks
        NatsConnectionState.callsOf_runCallbacks_of_not rfl
    | subscribe register subject fn_name =>
      exact .kept (callsOf_insert_delete s.db register subject fn_name).1
        (pending_of_payload_none hsender rfl)
    | unsubscribe subject fn_name =>
      exact .kept (callsOf_insert_delete s.db true subject fn_name).2
        (pending_of_payload_none hsender rfl)
    | unsubscribeSubject subject reason =>
      exact .kept rfl (pending_of_payload_none hsender rfl)

/-- Every step is accounted for. -/
theorem account_step (f : String) (subjects : String → Bool) (h : Transition s e s') :
    Account f subjects s e s' := by
  cases h with
  | deliver msg hlive => exact .kept rfl (List.append_nil _).symm
  | @report handler task result hlive htask =>
    refine .kept rfl ?_
    have harriving : arriving subjects s (.report handler result) =
        (reported task result).payload? subjects := by
      unfold arriving
      dsimp only
      rw [htask, Option.bind_some]
    unfold pending
    rw [harriving]
    dsimp only
    rw [List.filterMap_append, filterMap_cons_toList, List.filterMap_nil, List.append_nil]
  | wake hphase =>
    refine .kept rfl ?_
    exact (pending_checkMigration s.db s.ctx _).trans (List.append_nil _).symm
  | sharedRecv hphase hrecv =>
    refine .kept rfl ?_
    exact (pending_handleMessage s.ctx _ _).trans (List.append_nil _).symm
  | sharedEmpty hphase => exact .kept rfl (List.append_nil _).symm
  | internalRecv hphase hsender => exact account_internal hsender
  | internalEmpty hphase hsender => exact .kept rfl (List.append_nil _).symm
  | exit result hcause =>
    refine .kept rfl ?_
    have hnone : arriving subjects s e = none := by
      rcases hcause with ⟨status, env, rfl, -⟩ | rfl | rfl <;> rfl
    rw [hnone]
    exact (List.append_nil _).symm
  | restart config env =>
    obtain ⟨published, hstart⟩ := start_eq s.db s.handled config env
    exact .restarted rfl (by rw [hstart]) (pending_start _ _ _ _)

/-! ## Whole runs -/

/-- Whatever the subject. -/
def anySubject : String → Bool := fun _ => true

/-- The function was called with some of what was pending and what arrived, in order. -/
def CalledFrom (f : String) (s : Subscriber) (seen : List (List UInt8)) (s' : Subscriber) : Prop :=
  ∃ called, s'.db.callsOf f = s.db.callsOf f ++ called ∧
    (called ++ s'.pending anySubject).Sublist (s.pending anySubject ++ seen)

/-- A step calls the function with the first payload that is pending, or not at all. -/
theorem calledFrom_step (f : String) (h : Transition s e s') :
    CalledFrom f s (arriving anySubject s e).toList s' := by
  cases account_step f anySubject h with
  | kept hcalls hpending =>
    refine ⟨[], by rw [hcalls, List.append_nil], ?_⟩
    rw [List.nil_append, hpending]
  | @called outcome subject data rest he hsender hmaster hcalled hspared hrest =>
    have hpending : s.pending anySubject = data :: s'.pending anySubject := by
      unfold pending
      rw [hsender, hrest, filterMap_cons_toList]
      rfl
    rw [he]
    by_cases hcall : callable f = true ∧ s.ctx.nats.Registered subject f
    · refine ⟨[data], hcalled hcall.1 hcall.2, ?_⟩
      rw [hpending]
      exact List.sublist_append_left _ _
    · refine ⟨[], by rw [hspared hcall, List.append_nil], ?_⟩
      rw [hpending]
      exact (List.sublist_cons_self _ _).trans (List.sublist_append_left _ _)
  | @dropped outcome subject data rest he hsender hreplica hcalls hrest =>
    refine ⟨[], by rw [hcalls, List.append_nil], ?_⟩
    unfold pending
    rw [hsender, hrest, filterMap_cons_toList]
    exact (List.sublist_append_right _ _).trans (List.sublist_append_left _ _)
  | restarted he hcalls hpending =>
    refine ⟨[], by rw [hcalls, List.append_nil], ?_⟩
    rw [hpending]
    exact List.nil_sublist _

/-- What was called in two parts of a run was called in order. -/
theorem CalledFrom.trans {t : Subscriber} {seen seen' : List (List UInt8)}
    (h : CalledFrom f s seen t) (h' : CalledFrom f t seen' s') :
    CalledFrom f s (seen ++ seen') s' := by
  obtain ⟨called, hcalls, hsub⟩ := h
  obtain ⟨called', hcalls', hsub'⟩ := h'
  refine ⟨called ++ called', by rw [hcalls', hcalls, List.append_assoc], ?_⟩
  -- What is pending between the two parts is called in the second one.
  have hearlier := hsub'.append_left called
  have hlater := hsub.append_right seen'
  rw [List.append_assoc] at hlater ⊢
  rw [List.append_assoc] at hlater
  exact hearlier.trans hlater

/-- In every run, with any requests, role changes, reconnects, and new processes, a function is
called for a part of the messages that were in the channel or arrived: each at most once, and in the
order of their arrival. -/
theorem called_at_most_once (f : String) {es : List Event} (hrun : Run.run step s es = some s') :
    ∃ called, s'.db.callsOf f = s.db.callsOf f ++ called ∧
      called.Sublist (s.pending anySubject ++ Run.observe step (arriving anySubject) s es) := by
  have hnil : ∀ s, CalledFrom f s [] s :=
    fun s => ⟨[], (List.append_nil _).symm, by rw [List.append_nil]; exact List.Sublist.refl _⟩
  have hstep : ∀ s e s', True → step s e = some s' →
      CalledFrom f s (arriving anySubject s e).toList s' :=
    fun s e s' _ h => calledFrom_step f (transition_of_step h)
  obtain ⟨called, hcalls, hsub⟩ := Run.run_account hnil CalledFrom.trans hstep
    (RunAll.of_forall_mem fun _ _ => trivial) hrun
  exact ⟨called, hcalls, (List.sublist_append_left _ _).trans hsub⟩

/-- A master that restores one row, gets two messages on its subject, and handles the first. -/
def twoMessages : List Event := [
  .wake .exist ⟨.master, true, ⟨none, none, id⟩, true⟩, .sharedEmpty,
  .internalRecv fun _ => .ok (), .report 0 (.ok [1]), .report 0 (.ok [2]),
  .internalRecv fun _ => .ok ()]

/-- A new process on a master, with one row in the table. -/
def oneRow : Subscriber :=
  start ⟨[("orders", "public.f")], []⟩ [] (parseConfig ∅) ⟨.master, true, ⟨none, none, id⟩, true⟩

/-- Of the two messages, the function was called with the first. -/
theorem called_at_most_once_first : ∃ s, Run.run step oneRow twoMessages = some s ∧
    s.db.callsOf "public.f" = [[1]] ∧ ∃ called, s.db.callsOf "public.f" = [] ++ called ∧
      called.Sublist (oneRow.pending anySubject ++ [[1], [2]]) := by
  obtain ⟨s, hrun, hcalls⟩ : ∃ s, Run.run step oneRow twoMessages = some s ∧
      s.db.callsOf "public.f" = [[1]] := ⟨_, rfl, rfl⟩
  exact ⟨s, hrun, hcalls, called_at_most_once "public.f" hrun⟩

/-- The process stays, and when it handles a message that arrived, it is a master and has the
function registered for the message exactly when that is on one of the subjects. -/
def Serves (f : String) (subjects : String → Bool) (s : Subscriber) : Event → Prop
  | .internalRecv _ => match s.ctx.sender with
    | .callbackCall subject _ :: _ => s.ctx.status = .master ∧
      (s.ctx.nats.Registered subject f ↔ subjects subject = true)
    | _ => True
  | .restart _ _ => False
  | _ => True

/-- What `Serves` says of a message that arrived. -/
theorem Serves.of_sender {outcome : String → Except CallError Unit} {subject : String}
    {data : List UInt8} {rest : List InternalWorkerMessage}
    (h : Serves f subjects s (.internalRecv outcome))
    (hsender : s.ctx.sender = .callbackCall subject data :: rest) : s.ctx.status = .master ∧
      (s.ctx.nats.Registered subject f ↔ subjects subject = true) := by
  unfold Serves at h
  rwa [hsender] at h

/-- What the function was called with and what is pending for it are what they were and what arrived
since. -/
def CalledAll (f : String) (subjects : String → Bool) (s : Subscriber) (seen : List (List UInt8))
    (s' : Subscriber) : Prop :=
  s'.db.callsOf f ++ s'.pending subjects = s.db.callsOf f ++ s.pending subjects ++ seen

/-- A step that serves the function calls it with the first payload that is pending, if the message
is on one of its subjects. -/
theorem calledAll_step (hf : callable f = true) (hserves : Serves f subjects s e)
    (h : Transition s e s') : CalledAll f subjects s (arriving subjects s e).toList s' := by
  unfold CalledAll
  cases account_step f subjects h with
  | kept hcalls hpending => rw [hcalls, hpending, List.append_assoc]
  | @called outcome subject data rest he hsender hmaster hcalled hspared hrest =>
    subst he
    have hiff := (hserves.of_sender hsender).2
    have hnone : arriving subjects s (.internalRecv outcome) = none := rfl
    rw [hnone, Option.toList_none, List.append_nil]
    unfold pending
    rw [hsender, hrest, filterMap_cons_toList]
    unfold InternalWorkerMessage.payload?
    dsimp only
    -- The message leaves the channel, and is a call or none of the function's.
    by_cases hregistered : s.ctx.nats.Registered subject f
    · rw [hcalled hf hregistered, if_pos (hiff.mp hregistered), List.append_assoc]
      rfl
    · rw [hspared fun hcall => hregistered hcall.2,
        if_neg fun hsubject => hregistered (hiff.mpr hsubject)]
      rfl
  | dropped he hsender hreplica hcalls hrest =>
    subst he
    exact absurd ((hserves.of_sender hsender).1.symm.trans hreplica) (by simp)
  | restarted he hcalls hpending =>
    subst he
    exact hserves.elim

/-- What was called in two parts of a run is all that arrived in them. -/
theorem CalledAll.trans {t : Subscriber} {seen seen' : List (List UInt8)}
    (h : CalledAll f subjects s seen t) (h' : CalledAll f subjects t seen' s') :
    CalledAll f subjects s (seen ++ seen') s' := by
  unfold CalledAll at h h' ⊢
  rw [h', h, List.append_assoc]

/-- While a function is registered under some subjects, it is called with every message that arrives
on them, once and in order: what it was called with and what the channel still holds for it are what
they were and what arrived since. -/
theorem called_in_order (hf : callable f = true) {es : List Event}
    (hrun : Run.run step s es = some s') (hserves : RunAll step (Serves f subjects) s es) :
    s'.db.callsOf f ++ s'.pending subjects =
      s.db.callsOf f ++ s.pending subjects ++ Run.observe step (arriving subjects) s es := by
  have hnil : ∀ s, CalledAll f subjects s [] s := fun s => (List.append_nil _).symm
  have hstep : ∀ s e s', Serves f subjects s e → step s e = some s' →
      CalledAll f subjects s (arriving subjects s e).toList s' :=
    fun s e s' hserves h => calledAll_step hf hserves (transition_of_step h)
  exact Run.run_account hnil CalledAll.trans hstep hserves hrun

/-- Of the two messages, the function was called with the first, and the channel holds the second.
-/
theorem called_in_order_two : ∃ s, Run.run step oneRow twoMessages = some s ∧
    s.db.callsOf "public.f" ++ s.pending (· == "orders") = [] ++ [] ++ [[1], [2]] := by
  obtain ⟨s, hrun⟩ : ∃ s, Run.run step oneRow twoMessages = some s := ⟨_, rfl⟩
  have hcallable : callable "public.f" = true := by decide
  have hserves : RunAll step (Serves "public.f" (· == "orders")) oneRow twoMessages :=
    ⟨trivial, trivial, trivial, trivial, trivial,
      ⟨rfl, iff_of_true ⟨_, rfl, by decide⟩ rfl⟩, trivial⟩
  exact ⟨s, hrun, called_in_order hcallable hrun hserves⟩

end Subscriber

end PgNats
