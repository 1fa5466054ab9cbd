import PgNats.Subscriber.Silent

/-!
# The subscriptions agree with the table

The pairs of subject and function in the map and the rows of the table are brought together by the
messages that are still in the internal channel: what `restore_state` queued adds to the map only,
and a request changes both. `Agrees` says that on a master the map and the table are equal once the
channel is handled (`mapEffect` and `rowEffect` are what one message does to either), and that the
rows are the outcome of the requests handled so far (`Requested`). On a replica the map is empty,
and between two passes its channel has no request, so that a promotion restores exactly the rows.

`subscriptions_agree` is the result at the end of a pass, where the channel is empty. It is under
the assumptions on the outside that `Assumed` lists for each event.
-/

namespace PgNats

open NatsConnectionState (Registered)

/-- Whether a pair is in the map after a message, when `p` says whether it was. -/
def mapEffect (pair : String × String) (p : Prop) : InternalWorkerMessage → Prop
  | .subscribe _ subject fn_name => pair = (subject, fn_name) ∨ p
  | .unsubscribe subject fn_name => pair ≠ (subject, fn_name) ∧ p
  | _ => p

/-- Whether a pair is in the table after a message, when `p` says whether it was. -/
def rowEffect (pair : String × String) (p : Prop) : InternalWorkerMessage → Prop
  | .subscribe true subject fn_name => pair = (subject, fn_name) ∨ p
  | .unsubscribe subject fn_name => pair ≠ (subject, fn_name) ∧ p
  | _ => p

/-- The last request for the pair is a `Subscribe`, or there is none and the pair was in the table
initially. The requests are the newest first. -/
def Requested (initial : List (String × String)) (pair : String × String) : List Request → Prop
  | [] => pair ∈ initial
  | request :: requests =>
    if request.pair = pair then request.subscribe = true else Requested initial pair requests

section Effect

variable {pair : String × String} {p : Prop}

/-- Callback calls change no row and no map. -/
theorem foldl_effect_callbacks {effect : Prop → InternalWorkerMessage → Prop}
    (heffect : ∀ p subject data, effect p (.callbackCall subject data) = p)
    {msgs : List InternalWorkerMessage}
    (h : ∀ msg ∈ msgs, ∃ subject data, msg = .callbackCall subject data) :
    msgs.foldl effect p = p := by
  induction msgs with
  | nil => rfl
  | cons msg msgs ih =>
    obtain ⟨subject, data, rfl⟩ := h msg List.mem_cons_self
    rw [List.foldl_cons, heffect]
    exact ih fun msg hmem => h msg (List.mem_cons_of_mem _ hmem)

/-- The messages of `restore_state` bring the rows into the map. -/
theorem foldl_mapEffect_restore (rows : List (String × String)) :
    (rows.map fun row => InternalWorkerMessage.subscribe false row.1 row.2).foldl (mapEffect pair) p
      ↔ pair ∈ rows ∨ p := by
  induction rows generalizing p with
  | nil => simp
  | cons row rows ih =>
    rw [List.map_cons, List.foldl_cons, ih, List.mem_cons]
    show pair ∈ rows ∨ pair = (row.1, row.2) ∨ p ↔ _
    rw [← or_assoc, or_comm (a := pair ∈ rows)]

/-- The messages of `restore_state` leave the table alone. -/
theorem foldl_rowEffect_restore (rows : List (String × String)) :
    (rows.map fun row => InternalWorkerMessage.subscribe false row.1 row.2).foldl (rowEffect pair) p
      = p := by
  induction rows with
  | nil => rfl
  | cons row rows ih => exact ih

/-- A message at the end of the channel with one effect on both keeps the map and the table
together. -/
theorem foldl_effect_push {q r : Prop} {msg : InternalWorkerMessage}
    {msgs : List InternalWorkerMessage}
    (hsame : ∀ p, mapEffect pair p msg = rowEffect pair p msg)
    (h : msgs.foldl (mapEffect pair) q ↔ msgs.foldl (rowEffect pair) r) :
    (msgs ++ [msg]).foldl (mapEffect pair) q ↔ (msgs ++ [msg]).foldl (rowEffect pair) r := by
  rw [List.foldl_append, List.foldl_append, propext h]
  show mapEffect pair _ msg ↔ rowEffect pair _ msg
  rw [hsame]

/-- The requests handled so far have the effect of their messages. -/
theorem requested_handled {initial : List (String × String)} {handled : List Request}
    (msg : InternalWorkerMessage) : Requested initial pair (msg.request?.toList ++ handled) ↔
      rowEffect pair (Requested initial pair handled) msg := by
  cases msg with
  | subscribe register subject fn_name =>
    cases register with
    | false => exact Iff.rfl
    | true =>
      show (if (subject, fn_name) = pair then true = true else Requested initial pair handled) ↔
        pair = (subject, fn_name) ∨ Requested initial pair handled
      rcases eq_or_ne (subject, fn_name) pair with heq | hne
      · simp [heq]
      · simp [hne, hne.symm]
  | unsubscribe subject fn_name =>
    show (if (subject, fn_name) = pair then false = true else Requested initial pair handled) ↔
      pair ≠ (subject, fn_name) ∧ Requested initial pair handled
    rcases eq_or_ne (subject, fn_name) pair with heq | hne
    · simp [heq]
    · simp [hne, hne.symm]
  | callbackCall subject data => exact Iff.rfl
  | unsubscribeSubject subject reason => exact Iff.rfl

variable {ctx : SubscriberContext} {db : Database} {outcome : String → Except CallError Unit}

/-- Handling a message has its effect on the map, when the server accepts subscriptions and the
called functions exist. -/
theorem registered_handleInternalMessage {msg : InternalWorkerMessage}
    (haccepted : ∀ subject reason, msg ≠ .unsubscribeSubject subject reason)
    (hfound : ∀ f, outcome f ≠ .error .notFound) {s f : String} :
    (handleInternalMessage ctx db outcome msg).1.nats.Registered s f ↔
      mapEffect (s, f) (ctx.nats.Registered s f) msg := by
  cases msg with
  | subscribe register subject fn_name => exact NatsConnectionState.registered_subscribe
  | unsubscribe subject fn_name => exact NatsConnectionState.registered_unsubscribe
  | callbackCall subject data =>
    apply NatsConnectionState.registered_runCallbacks
    intro db fnname
    unfold callFunction
    split_ifs
    · exact hfound fnname
    · simp
  | unsubscribeSubject subject reason => exact absurd rfl (haccepted subject reason)

/-- Handling a message has its effect on the table. -/
theorem mem_handleInternalMessage (msg : InternalWorkerMessage) :
    pair ∈ (handleInternalMessage ctx db outcome msg).2.subscriptions ↔
      rowEffect pair (pair ∈ db.subscriptions) msg := by
  cases msg with
  | subscribe register subject fn_name =>
    cases register with
    | false => exact Iff.rfl
    | true => exact mem_insertSubjectCallback
  | unsubscribe subject fn_name => exact mem_deleteSubjectCallback
  | callbackCall subject data =>
    have hrows : (ctx.nats.runCallbacks subject data (callFunction outcome) db).2.subscriptions
        = db.subscriptions :=
      NatsConnectionState.runCallbacks_subscriptions fun _ _ => callFunction_subscriptions _ _ _ _
    show pair ∈ (ctx.nats.runCallbacks subject data (callFunction outcome) db).2.subscriptions ↔ _
    rw [hrows]
    rfl
  | unsubscribeSubject subject reason => exact Iff.rfl

end Effect

namespace Subscriber

/-- What is assumed of the outside: the catalog can be read, the NATS server accepts subscriptions,
and no call reports that the function does not exist. -/
def Assumed : Event → Prop
  | .report _ result => ∃ data, result = .ok data
  | .wake _ env => env.selected = true
  | .internalRecv outcome => ∀ f, outcome f ≠ .error .notFound
  | .restart _ env => env.selected = true
  | _ => True

/-- The map, the channel, and the table fit together, with the table at first `initial`. -/
structure Agrees (initial : List (String × String)) (s : Subscriber) : Prop where
  /-- A replica has no subscribed subject. -/
  quiet : s.ctx.Quiet
  /-- No handler task has failed to subscribe. -/
  accepted : ∀ msg ∈ s.ctx.sender, ∀ subject reason, msg ≠ .unsubscribeSubject subject reason
  /-- On a master, the channel brings the map and the table together. -/
  agree : s.ctx.status = .master → ∀ pair,
    s.ctx.sender.foldl (mapEffect pair) (s.ctx.nats.Registered pair.1 pair.2) ↔
      s.ctx.sender.foldl (rowEffect pair) (pair ∈ s.db.subscriptions)
  /-- Between two passes, a replica has only callback calls in its channel. -/
  waiting : s.ctx.status = .replica → s.phase = .waiting →
    ∀ msg ∈ s.ctx.sender, ∃ subject data, msg = .callbackCall subject data
  /-- The rows are the outcome of the requests. -/
  rows : ∀ pair, pair ∈ s.db.subscriptions ↔ Requested initial pair s.handled

/-- With an empty map, restoring the rows behind callback calls gives the rows. -/
theorem agree_of_restore {rows : List (String × String)} {sender : List InternalWorkerMessage}
    {nats : NatsConnectionState} (hempty : nats.subscriptions = ∅)
    (hcalls : ∀ msg ∈ sender, ∃ subject data, msg = .callbackCall subject data)
    (pair : String × String) :
    (sender ++ rows.map fun row => InternalWorkerMessage.subscribe false row.1 row.2).foldl
        (mapEffect pair) (nats.Registered pair.1 pair.2) ↔
      (sender ++ rows.map fun row => InternalWorkerMessage.subscribe false row.1 row.2).foldl
        (rowEffect pair) (pair ∈ rows) := by
  have hnone : ¬ nats.Registered pair.1 pair.2 := by
    rintro ⟨sub, hsub, -⟩
    rw [hempty, AList.lookup_empty] at hsub
    exact absurd hsub (by simp)
  rw [List.foldl_append, List.foldl_append,
    foldl_effect_callbacks (fun _ _ _ => rfl) hcalls,
    foldl_effect_callbacks (fun _ _ _ => rfl) hcalls,
    foldl_mapEffect_restore, foldl_rowEffect_restore]
  simp [hnone]

/-- A message that is no refusal may follow. -/
theorem accepted_push {sender : List InternalWorkerMessage} {msg : InternalWorkerMessage}
    (h : ∀ msg ∈ sender, ∀ subject reason, msg ≠ .unsubscribeSubject subject reason)
    (hmsg : ∀ subject reason, msg ≠ .unsubscribeSubject subject reason) :
    ∀ m ∈ sender ++ [msg], ∀ subject reason, m ≠ .unsubscribeSubject subject reason := by
  intro m hmem
  rcases List.mem_append.mp hmem with hmem | hmem
  · exact h m hmem
  · rw [List.mem_singleton.mp hmem]
    exact hmsg

/-- What is restored is accepted. -/
theorem accepted_of_restore {rows : List (String × String)} {sender : List InternalWorkerMessage}
    (h : ∀ msg ∈ sender, ∀ subject reason, msg ≠ .unsubscribeSubject subject reason) :
    ∀ msg ∈ sender ++ rows.map (fun row => InternalWorkerMessage.subscribe false row.1 row.2),
      ∀ subject reason, msg ≠ .unsubscribeSubject subject reason := by
  intro msg hmem subject reason
  rcases List.mem_append.mp hmem with hmem | hmem
  · exact h msg hmem subject reason
  · obtain ⟨row, -, rfl⟩ := List.mem_map.mp hmem
    simp

/-- A new process has an empty map, and on a master the rows in its channel. -/
theorem start_ctx (db : Database) (handled : List Request) (config : Config) {env : Env}
    (hselected : env.selected = true) :
    (start db handled config env).ctx.nats.subscriptions = ∅ ∧
      (start db handled config env).ctx.status = env.role ∧
      (start db handled config env).ctx.sender = [] ++ if env.role = .master then
        db.subscriptions.map fun row => InternalWorkerMessage.subscribe false row.1 row.2
        else [] := by
  obtain ⟨published, hstart⟩ := start_eq db handled config env
  rw [hstart]
  refine ⟨rfl, rfl, ?_⟩
  unfold SubscriberContext.new
  simp only [hselected, and_true, List.nil_append]

/-- A new process agrees with the table that it finds. -/
theorem agrees_start {initial : List (String × String)} {db : Database} {handled : List Request}
    (hrows : ∀ pair, pair ∈ db.subscriptions ↔ Requested initial pair handled) (config : Config)
    {env : Env} (hselected : env.selected = true) :
    Agrees initial (start db handled config env) := by
  obtain ⟨hempty, hstatus, hsender⟩ := start_ctx db handled config hselected
  refine ⟨quiet_start db handled config env, ?_, ?_, ?_, hrows⟩
  · rw [hsender]
    split_ifs
    · exact accepted_of_restore (by simp)
    · simp
  · intro hmaster pair
    rw [hsender, if_pos (hstatus.symm.trans hmaster)]
    exact agree_of_restore hempty (by simp) pair
  · intro hreplica _ msg hmem
    rw [hsender, if_neg (by rw [← hstatus, hreplica]; simp)] at hmem
    exact absurd hmem (by simp)

/-- The check of the role keeps the agreement: a promotion restores the rows. -/
theorem agrees_wake {initial : List (String × String)} {s : Subscriber} (h : Agrees initial s)
    (hphase : s.phase = .waiting) {env : Env} (hselected : env.selected = true) :
    Agrees initial { s with phase := .shared, ctx := (s.ctx.checkMigration s.db env).1 } := by
  have hquiet := SubscriberContext.quiet_checkMigration h.quiet s.db env
  rcases s.ctx.checkMigration_cases s.db env with
    ⟨-, hctx⟩ | ⟨-, -, published, hctx⟩ | ⟨hreplica, -, published, hctx⟩
  · -- Without a role change only the phase is new.
    rw [hctx]
    exact ⟨h.quiet, h.accepted, h.agree, fun _ hwaiting => absurd hwaiting (by simp), h.rows⟩
  · -- A demotion empties the map, and nothing is left to agree.
    rw [hctx] at hquiet ⊢
    exact ⟨hquiet, h.accepted, fun hmaster => absurd hmaster (by simp),
      fun _ hwaiting => absurd hwaiting (by simp), h.rows⟩
  · -- A promotion starts from an empty map and from a channel of callback calls only.
    rw [if_pos hselected] at hctx
    rw [hctx] at hquiet ⊢
    exact ⟨hquiet, accepted_of_restore h.accepted,
      fun _ => agree_of_restore (h.quiet.empty hreplica) (h.waiting hreplica hphase),
      fun _ hwaiting => absurd hwaiting (by simp), h.rows⟩

/-- A message of the queue keeps the agreement: a request at the end of the channel has the same
effect on the map and on the table. -/
theorem agrees_sharedRecv {initial : List (String × String)} {s : Subscriber}
    (h : Agrees initial s) (hphase : s.phase = .shared) (connected : Bool)
    (msg : SubscriberMessage) (recv : List SubscriberMessage) :
    Agrees initial { s with recv, ctx := handleMessageFromSharedQueue s.ctx connected msg } := by
  have hquiet := SubscriberContext.quiet_handleMessageFromSharedQueue h.quiet connected msg
  have hshared : s.phase ≠ .waiting := by rw [hphase]; simp
  cases msg with
  -- A new configuration respawns the tasks, but the pairs are the same.
  | newConfig config =>
    obtain ⟨hsender, hstatus, hreg⟩ := SubscriberContext.applyConfig_frame s.ctx config connected
    refine ⟨hquiet, ?_, ?_, fun _ hwaiting => absurd hwaiting hshared, h.rows⟩
    · show ∀ msg ∈ (s.ctx.applyConfig config connected).1.sender, _
      rw [hsender]
      exact h.accepted
    · intro hmaster pair
      show (s.ctx.applyConfig config connected).1.sender.foldl _
        ((s.ctx.applyConfig config connected).1.nats.Registered pair.1 pair.2) ↔
          (s.ctx.applyConfig config connected).1.sender.foldl _ _
      rw [hsender, propext (hreg pair.1 pair.2)]
      exact h.agree (hstatus.symm.trans hmaster) pair
  | subscribe subject fn_name =>
    refine ⟨hquiet, ?_, ?_, fun _ hwaiting => absurd hwaiting hshared, h.rows⟩
    · exact accepted_push h.accepted (by simp)
    · intro hmaster pair
      exact foldl_effect_push (fun _ => rfl) (h.agree hmaster pair)
  | unsubscribe subject fn_name =>
    refine ⟨hquiet, ?_, ?_, fun _ hwaiting => absurd hwaiting hshared, h.rows⟩
    · exact accepted_push h.accepted (by simp)
    · intro hmaster pair
      exact foldl_effect_push (fun _ => rfl) (h.agree hmaster pair)

/-- A message of the channel keeps the agreement: on a master it has its effect, and on a replica it
is dropped. -/
theorem agrees_internalRecv {initial : List (String × String)} {s : Subscriber}
    (h : Agrees initial s) (hphase : s.phase = .internal)
    {outcome : String → Except CallError Unit} (hfound : ∀ f, outcome f ≠ .error .notFound)
    {msg : InternalWorkerMessage} {rest : List InternalWorkerMessage}
    (hsender : s.ctx.sender = msg :: rest) (hquiet : (s.internal outcome msg rest).ctx.Quiet) :
    Agrees initial (s.internal outcome msg rest) := by
  have haccepted : ∀ m ∈ rest, ∀ subject reason, m ≠ .unsubscribeSubject subject reason :=
    fun m hmem => h.accepted m (by rw [hsender]; exact List.mem_cons_of_mem _ hmem)
  have hmsg : ∀ subject reason, msg ≠ .unsubscribeSubject subject reason :=
    h.accepted msg (by rw [hsender]; exact List.mem_cons_self)
  have hinternal : s.phase ≠ .waiting := by rw [hphase]; simp
  cases hrole : s.ctx.status with
  | replica =>
    -- A replica drops the message, and on a replica there is nothing to show.
    rw [internal_of_replica hrole] at hquiet ⊢
    refine ⟨hquiet, haccepted, fun hmaster => ?_,
      fun _ hwaiting => absurd hwaiting hinternal, h.rows⟩
    exact absurd (hrole.symm.trans hmaster) (by simp)
  | master =>
    rw [internal_of_master hrole] at hquiet ⊢
    have hrest : (handleInternalMessage { s.ctx with sender := rest } s.db outcome msg).1.sender =
        rest := handleInternalMessage_sender _ _ _ _
    refine ⟨hquiet, ?_, ?_, fun _ hwaiting => absurd hwaiting hinternal, ?_⟩
    · rw [hrest]
      exact haccepted
    · intro _ pair
      -- The message is the first of both folds, so handling it moves its effect into their start.
      have hagree := h.agree hrole pair
      rw [hsender, List.foldl_cons, List.foldl_cons] at hagree
      rw [hrest, propext (registered_handleInternalMessage hmsg hfound),
        propext (mem_handleInternalMessage msg)]
      exact hagree
    · intro pair
      rw [requested_handled, ← propext (h.rows pair)]
      exact mem_handleInternalMessage msg

/-- Every step keeps the agreement. -/
theorem agrees_step {initial : List (String × String)} {s s' : Subscriber} {e : Event}
    (h : Agrees initial s) (hassumed : Assumed e) (hstep : step s e = some s') :
    Agrees initial s' := by
  have hquiet := quiet_step h.quiet hstep
  cases transition_of_step hstep with
  | deliver msg hlive => exact ⟨h.quiet, h.accepted, h.agree, h.waiting, h.rows⟩
  | report hlive htask =>
    obtain ⟨data, rfl⟩ := hassumed
    refine ⟨hquiet, ?_, ?_, ?_, h.rows⟩
    · exact accepted_push h.accepted (by simp [reported])
    · intro hmaster pair
      exact foldl_effect_push (fun _ => rfl) (h.agree hmaster pair)
    -- A task may still report between two passes, after it was aborted.
    · intro hreplica hwaiting m hmem
      rcases List.mem_append.mp hmem with hmem | hmem
      · exact h.waiting hreplica hwaiting m hmem
      · exact ⟨_, data, List.mem_singleton.mp hmem⟩
  | wake hphase => exact agrees_wake h hphase hassumed
  | sharedRecv hphase hrecv => exact agrees_sharedRecv h hphase _ _ _
  | sharedEmpty hphase =>
    exact ⟨h.quiet, h.accepted, h.agree, fun _ hwaiting => absurd hwaiting (by simp), h.rows⟩
  | internalRecv hphase hsender => exact agrees_internalRecv h hphase hassumed hsender hquiet
  | internalEmpty hphase hsender =>
    refine ⟨h.quiet, h.accepted, h.agree, fun _ _ m hmem => ?_, h.rows⟩
    rw [show s.ctx.sender = [] from hsender] at hmem
    exact absurd hmem (by simp)
  | exit result hcause =>
    exact ⟨h.quiet, h.accepted, h.agree, fun _ hwaiting => absurd hwaiting (by simp), h.rows⟩
  | restart config env => exact agrees_start h.rows config hassumed

/-- At the end of every pass that leaves the status at `Master`, the map and the table are equal,
and a pair is in them exactly when the last request for it that a master handled was a `Subscribe`,
or there was none and the table had it from the start. -/
theorem subscriptions_agree (db : Database) (config : Config) {env : Env}
    (hselected : env.selected = true) {es : List Event} (hassumed : ∀ e ∈ es, Assumed e)
    {s : Subscriber}
    (hrun : Run.run step (start db [] config env) (es ++ [.internalEmpty]) = some s)
    (hmaster : s.ctx.status = .master) :
    (∀ subject f, s.ctx.nats.Registered subject f ↔ (subject, f) ∈ s.db.subscriptions) ∧
      ∀ pair, pair ∈ s.db.subscriptions ↔ Requested db.subscriptions pair s.handled := by
  rw [Run.run_append, Option.bind_eq_some_iff] at hrun
  obtain ⟨t, ht, hlast⟩ := hrun
  have hkeep : ∀ s e s', Agrees db.subscriptions s → Assumed e → step s e = some s' →
      Agrees db.subscriptions s' := fun _ _ _ => agrees_step
  have hinv : Agrees db.subscriptions t :=
    Run.run_invariant hkeep (agrees_start (fun _ => Iff.rfl) config hselected)
      (Run.RunAll.of_forall_mem hassumed) ht
  obtain ⟨u, hstep, hu⟩ := Run.run_cons_eq_some.mp hlast
  obtain rfl : u = s := Option.some.inj hu
  have hagrees : Agrees db.subscriptions u :=
    agrees_step hinv (show Assumed .internalEmpty from trivial) hstep
  -- The pass ends on an empty channel.
  have hempty : u.ctx.sender = [] := by
    unfold step at hstep
    dsimp only at hstep
    split at hstep
    · next hsender =>
      rw [← Option.some.inj hstep]
      exact hsender
    · exact absurd hstep (by simp)
  refine ⟨fun subject f => ?_, hagrees.rows⟩
  have hpair := hagrees.agree hmaster (subject, f)
  rw [hempty] at hpair
  exact hpair

/-- A master restores a stored subscription, gets requests for another one and against the stored
one, is demoted and promoted again, and ends the pass with the requested one in both places. -/
theorem subscriptions_agree_after_failover :
    ∃ s, Run.run step
        (start ⟨[("a", "f")], []⟩ [] (parseConfig ∅) ⟨.master, true, ⟨none, none, id⟩, true⟩)
        ([.wake .exist ⟨.master, true, ⟨none, none, id⟩, true⟩, .deliver (.subscribe "b" "g"),
          .deliver (.unsubscribe "a" "f"), .sharedRecv true, .sharedRecv true, .sharedEmpty,
          .internalRecv fun _ => .ok (), .internalRecv fun _ => .ok (),
          .internalRecv fun _ => .ok (), .internalEmpty,
          .wake .exist ⟨.replica, true, ⟨none, none, id⟩, true⟩, .sharedEmpty, .internalEmpty,
          .wake .exist ⟨.master, true, ⟨none, none, id⟩, true⟩, .sharedEmpty,
          .internalRecv fun _ => .ok ()] ++ [.internalEmpty]) = some s ∧
      s.db.subscriptions = [("b", "g")] ∧
      ∀ subject f, s.ctx.nats.Registered subject f ↔ (subject, f) ∈ s.db.subscriptions := by
  obtain ⟨s, hrun, hmaster, hrows⟩ : ∃ s, Run.run step
      (start ⟨[("a", "f")], []⟩ [] (parseConfig ∅) ⟨.master, true, ⟨none, none, id⟩, true⟩)
      ([.wake .exist ⟨.master, true, ⟨none, none, id⟩, true⟩, .deliver (.subscribe "b" "g"),
        .deliver (.unsubscribe "a" "f"), .sharedRecv true, .sharedRecv true, .sharedEmpty,
        .internalRecv fun _ => .ok (), .internalRecv fun _ => .ok (),
        .internalRecv fun _ => .ok (), .internalEmpty,
        .wake .exist ⟨.replica, true, ⟨none, none, id⟩, true⟩, .sharedEmpty, .internalEmpty,
        .wake .exist ⟨.master, true, ⟨none, none, id⟩, true⟩, .sharedEmpty,
        .internalRecv fun _ => .ok ()] ++ [.internalEmpty]) = some s ∧
      s.ctx.status = .master ∧ s.db.subscriptions = [("b", "g")] := ⟨_, rfl, rfl, by decide⟩
  exact ⟨s, hrun, hrows, (subscriptions_agree _ _ rfl (by simp [Assumed]) hrun hmaster).1⟩

end Subscriber

end PgNats
