import PgNats.Subscriber.Calls
import PgNats.Subscriber.Missing
import PgNats.System.Delivery

/-!
# Where subscriptions come from

A pair of subject and function can be in many places: in a row of the table, registered in a worker,
in a worker's channel, in its queue, and behind a call of the function. `Vouched` says of all of
them that the pair meets a condition, and a step of a subscriber keeps it, whatever the condition
is, as long as what the launcher delivers meets it (`vouched_step`).

In the system, the condition is that the pair was in the table at the start, or that the bus has
accepted a `Subscribe` for it and for this database. `only_subscribed_called` is the result for
whole runs: nobody's function is called, and no row is there, without such a request.
-/

namespace PgNats

/-- The rows meet the condition, and so does every called function, under some subject, except for
the calls of old. -/
structure Database.Vouched (K : String × String → Prop) (old : List (String × List UInt8))
    (db : Database) : Prop where
  /-- The rows. -/
  rows : ∀ row ∈ db.subscriptions, K row
  /-- The calls. -/
  calls : ∀ call ∈ db.calls, call ∈ old ∨ ∃ subject, K (subject, call.1)

/-- A weaker condition is met too. -/
theorem Database.Vouched.mono {K K' : String × String → Prop} {old : List (String × List UInt8)}
    {db : Database} (h : db.Vouched K old) (hK : ∀ pair, K pair → K' pair) : db.Vouched K' old where
  rows row hrow := hK row (h.rows row hrow)
  calls call hcall := (h.calls call hcall).imp id fun ⟨subject, hpair⟩ => ⟨subject, hK _ hpair⟩

namespace Subscriber

/-- Every pair of a subscriber meets the condition. -/
structure Vouched (K : String × String → Prop) (s : Subscriber) : Prop where
  /-- The registered functions. -/
  registered : ∀ subject f, s.ctx.nats.Registered subject f → K (subject, f)
  /-- The subscriptions in the channel. -/
  channel : ∀ register subject f,
    InternalWorkerMessage.subscribe register subject f ∈ s.ctx.sender → K (subject, f)
  /-- The subscriptions in the queue. -/
  queue : ∀ subject f, SubscriberMessage.subscribe subject f ∈ s.recv → K (subject, f)

variable {K : String × String → Prop} {old : List (String × List UInt8)} {s s' : Subscriber}
  {e : Event}

/-- A weaker condition is met too. -/
theorem Vouched.mono {K' : String × String → Prop} (h : Vouched K s)
    (hK : ∀ pair, K pair → K' pair) : Vouched K' s :=
  ⟨fun subject f hreg => hK _ (h.registered subject f hreg),
    fun register subject f hmem => hK _ (h.channel register subject f hmem),
    fun subject f hmem => hK _ (h.queue subject f hmem)⟩

/-- What `restore_state` queues comes from rows. -/
theorem channel_of_restores {db : Database} {before after : List InternalWorkerMessage}
    (h : Restores db before after) (hrows : ∀ row ∈ db.subscriptions, K row)
    (hbefore : ∀ register subject f,
      InternalWorkerMessage.subscribe register subject f ∈ before → K (subject, f)) :
    ∀ register subject f,
      InternalWorkerMessage.subscribe register subject f ∈ after → K (subject, f) := by
  obtain ⟨rows, hmem, rfl⟩ := h
  intro register subject f hafter
  rcases List.mem_append.mp hafter with hold | hnew
  · exact hbefore register subject f hold
  · obtain ⟨row, hrow, heq⟩ := List.mem_map.mp hnew
    cases heq
    exact hrows row (hmem row hrow)

/-- A new process is vouched for, when the rows are. -/
theorem vouched_start {db : Database} (hrows : ∀ row ∈ db.subscriptions, K row)
    (handled : List Request) (config : Config) (env : Env) :
    Vouched K (start db handled config env) where
  registered subject f hreg :=
    absurd hreg (Missing.not_registered_start db handled config env subject f)
  channel := channel_of_restores (restores_start db handled config env) hrows
    fun _ _ _ hmem => absurd hmem List.not_mem_nil
  queue subject f hmem := by
    obtain ⟨published, hstart⟩ := start_eq db handled config env
    rw [hstart] at hmem
    exact absurd hmem List.not_mem_nil

/-- A message of the queue goes to the channel, if it is a request. -/
theorem vouched_sharedRecv (h : Vouched K s) {connected : Bool} {msg : SubscriberMessage}
    {recv : List SubscriberMessage} (hrecv : s.recv = msg :: recv) :
    Vouched K { s with recv, ctx := handleMessageFromSharedQueue s.ctx connected msg } := by
  have hqueue : ∀ subject f, SubscriberMessage.subscribe subject f ∈ recv → K (subject, f) :=
    fun subject f hmem => h.queue subject f (hrecv ▸ List.mem_cons_of_mem _ hmem)
  cases msg with
  | newConfig config =>
    obtain ⟨hsender, -, hregistered⟩ := s.ctx.applyConfig_frame config connected
    exact ⟨fun subject f hreg => h.registered subject f ((hregistered subject f).mp hreg),
      fun register subject f hmem => h.channel register subject f (hsender ▸ hmem), hqueue⟩
  | subscribe subject' f' =>
    refine ⟨h.registered, fun register subject f hmem => ?_, hqueue⟩
    rcases List.mem_append.mp hmem with hold | hnew
    · exact h.channel register subject f hold
    · obtain ⟨-, rfl, rfl⟩ := InternalWorkerMessage.subscribe.inj (List.mem_singleton.mp hnew)
      exact h.queue subject f (hrecv ▸ List.mem_cons_self)
  | unsubscribe subject' f' =>
    refine ⟨h.registered, fun register subject f hmem => ?_, hqueue⟩
    rcases List.mem_append.mp hmem with hold | hnew
    · exact h.channel register subject f hold
    · cases List.mem_singleton.mp hnew

/-- The calls of a message are those of registered functions. -/
theorem vouched_calls {nats : NatsConnectionState} {db : Database}
    (hreg : ∀ subject f, nats.Registered subject f → K (subject, f)) (hdb : db.Vouched K old)
    (subject : String) (data : List UInt8) (outcome : String → Except CallError Unit) :
    (nats.runCallbacks subject data (callFunction outcome) db).2.Vouched K old := by
  constructor
  · rw [NatsConnectionState.runCallbacks_subscriptions fun db f =>
      callFunction_subscriptions outcome db f data]
    exact hdb.rows
  · obtain ⟨functions, hfunctions⟩ := exists_functions outcome
    obtain ⟨order, -, hmem, hcalls⟩ := NatsConnectionState.runCallbacks_calls functions nats subject
      data db
    intro call hcall
    rw [← hfunctions, hcalls, foldl_calls] at hcall
    rcases List.mem_append.mp hcall with hold | hnew
    · exact hdb.calls call hold
    -- The functions that are called are among those of the message's subject.
    · obtain ⟨f, hf, rfl⟩ := List.mem_map.mp hnew
      exact Or.inr ⟨subject, hreg subject f ((hmem f).mp (List.mem_of_mem_filter hf))⟩

/-- A message of the channel adds a pair that was there. -/
theorem vouched_internal {ctx : SubscriberContext} {db : Database}
    {outcome : String → Except CallError Unit} {msg : InternalWorkerMessage}
    (hreg : ∀ subject f, ctx.nats.Registered subject f → K (subject, f)) (hdb : db.Vouched K old)
    (hmsg : ∀ register subject f, msg = .subscribe register subject f → K (subject, f)) :
    (∀ subject f, (handleInternalMessage ctx db outcome msg).1.nats.Registered subject f →
        K (subject, f)) ∧
      (handleInternalMessage ctx db outcome msg).2.Vouched K old := by
  cases msg with
  | subscribe register subject f =>
    have hpair := hmsg register subject f rfl
    refine ⟨fun subject' f' h => ?_, ?_⟩
    · rcases NatsConnectionState.registered_subscribe.mp h with heq | hold
      · rw [heq]
        exact hpair
      · exact hreg subject' f' hold
    · cases register with
      | false => exact hdb
      | true =>
        refine ⟨fun row hrow => ?_, ?_⟩
        · rcases mem_insertSubjectCallback.mp hrow with rfl | hold
          · exact hpair
          · exact hdb.rows row hold
        · show ∀ call ∈ (insertSubjectCallback db subject f).1.calls, _
          unfold insertSubjectCallback
          split_ifs <;> exact hdb.calls
  | unsubscribe subject f =>
    refine ⟨fun subject' f' h => ?_, fun row hrow => ?_, hdb.calls⟩
    · exact hreg subject' f' (NatsConnectionState.registered_unsubscribe.mp h).2
    · exact hdb.rows row (mem_deleteSubjectCallback.mp hrow).2
  | callbackCall subject data =>
    refine ⟨fun subject' f' h => ?_, vouched_calls hreg hdb subject data outcome⟩
    exact hreg subject' f' (Missing.registered_handleCallback.mp h).1
  | unsubscribeSubject subject reason =>
    refine ⟨fun subject' f' h => ?_, hdb⟩
    exact hreg subject' f' (NatsConnectionState.registered_unsubscribeSubject.mp h).2

/-- Every step keeps a subscriber and its database vouched for, if what the launcher delivers is. -/
theorem vouched_step (hs : Vouched K s) (hdb : s.db.Vouched K old) (h : Transition s e s')
    (hdeliver : ∀ subject f, e = .deliver (.subscribe subject f) → K (subject, f)) :
    Vouched K s' ∧ s'.db.Vouched K old := by
  cases h with
  | deliver msg hlive =>
    refine ⟨⟨hs.registered, hs.channel, fun subject f hmem => ?_⟩, hdb⟩
    rcases List.mem_append.mp hmem with hold | hnew
    · exact hs.queue subject f hold
    · exact hdeliver subject f (by rw [List.mem_singleton.mp hnew])
  | @report handler task result hlive htask =>
    refine ⟨⟨hs.registered, fun register subject f hmem => ?_, hs.queue⟩, hdb⟩
    rcases List.mem_append.mp hmem with hold | hnew
    · exact hs.channel register subject f hold
    · -- A task reports a message or a failure.
      have heq := List.mem_singleton.mp hnew
      cases result <;> cases heq
  | wake hphase =>
    refine ⟨⟨fun subject f h => ?_, ?_, hs.queue⟩, hdb⟩
    · exact hs.registered subject f (Missing.registered_of_checkMigration h)
    · exact channel_of_restores (s.ctx.restores_checkMigration s.db _) hdb.rows hs.channel
  | sharedRecv hphase hrecv => exact ⟨vouched_sharedRecv hs hrecv, hdb⟩
  | sharedEmpty hphase => exact ⟨⟨hs.registered, hs.channel, hs.queue⟩, hdb⟩
  | @internalRecv outcome msg rest hphase hsender =>
    have hrest : ∀ register subject f,
        InternalWorkerMessage.subscribe register subject f ∈ rest → K (subject, f) :=
      fun register subject f hmem =>
        hs.channel register subject f (hsender ▸ List.mem_cons_of_mem _ hmem)
    cases hrole : s.ctx.status with
    | replica =>
      rw [internal_of_replica hrole]
      exact ⟨⟨hs.registered, hrest, hs.queue⟩, hdb⟩
    | master =>
      have hmsg : ∀ register subject f, msg = .subscribe register subject f → K (subject, f) := by
        rintro register subject f rfl
        exact hs.channel register subject f (hsender ▸ List.mem_cons_self)
      have hregistered' : ∀ subject f,
          ({ s.ctx with sender := rest } : SubscriberContext).nats.Registered subject f →
            K (subject, f) := hs.registered
      obtain ⟨hregistered, hcalls⟩ := vouched_internal hregistered' hdb hmsg
      rw [internal_of_master hrole]
      refine ⟨⟨hregistered, fun register subject f hmem => ?_, hs.queue⟩, hcalls⟩
      dsimp only at hmem
      rw [handleInternalMessage_sender] at hmem
      exact hrest register subject f hmem
  | internalEmpty hphase hsender => exact ⟨⟨hs.registered, hs.channel, hs.queue⟩, hdb⟩
  | exit result hcause => exact ⟨⟨hs.registered, hs.channel, hs.queue⟩, hdb⟩
  -- A new process has what it reads from the table.
  | restart config env =>
    refine ⟨vouched_start hdb.rows _ config env, ?_⟩
    obtain ⟨published, hstart⟩ := start_eq s.db s.handled config env
    rw [hstart]
    exact hdb

/-- A step that a process makes by itself, on the table as it is now. -/
theorem vouched_loop {sub sub' : Subscriber} {db : Database} (hs : Vouched K sub)
    (hdb : db.Vouched K old) {terminating : Bool} {catalog : Catalog}
    (henabled : loopEnabled terminating catalog e = true)
    (hstep : step { sub with db } e = some sub') : Vouched K sub' ∧ sub'.db.Vouched K old := by
  have hsub : Vouched K { sub with db } := ⟨hs.registered, hs.channel, hs.queue⟩
  refine vouched_step hsub hdb (transition_of_step hstep) fun subject f he => ?_
  rw [he] at henabled
  cases henabled

end Subscriber

/-- A step of a process leaves the table as it is, unless it is one of its loop. -/
theorem Proc.table_of_step {p : Proc} {catalog : Catalog} {pe : ProcEvent} {r : ProcStep}
    (h : p.step catalog pe = some r) : r.table = catalog.table ∨
      ∃ sub sub' e, p.pc = .looping sub ∧ loopEnabled p.terminating catalog e = true ∧
        Subscriber.step { sub with db := catalog.table } e = some sub' ∧ r.table = sub'.db := by
  cases pe with
  | loop e =>
    unfold Proc.step at h
    dsimp only at h
    split at h
    · next sub hpc =>
      split_ifs at h with henabled
      obtain ⟨sub', hstep, rfl⟩ := Option.map_eq_some_iff.mp h
      refine Or.inr ⟨sub, sub', e, hpc, henabled, hstep, ?_⟩
      split <;> rfl
    · cases h
  | _ => exact Or.inl (by cases procTransition_of_step h <;> rfl)

namespace System

variable {s s' : System} {e : Event}

/-- The table of a database changes only when a worker of it makes a step of its loop, or when the
extension is dropped, which empties it. -/
theorem table_of_step (h : step s e = some s') (d : Oid) :
    (s'.catalog d).table = (s.catalog d).table ∨
    (s'.catalog d).table = { (s.catalog d).table with subscriptions := [] } ∨
    ∃ (g : ℕ) (p : Proc) (sub sub' : Subscriber) (e : Subscriber.Event), s.procs[g]? = some p ∧
      p.db = d ∧ p.pc = .looping sub ∧ loopEnabled p.terminating (s.catalog d) e = true ∧
      Subscriber.step { sub with db := (s.catalog d).table } e = some sub' ∧
      (s'.catalog d).table = sub'.db := by
  cases transition_of_step h with
  | @proc g pe p r hproc hlock hstep =>
    rcases eq_or_ne d p.db with rfl | hne
    · unfold step at h
      dsimp only at h
      rw [hproc] at h
      dsimp only at h
      split_ifs at h
      obtain ⟨r', hr', hs'⟩ := Option.map_eq_some_iff.mp h
      have htable : ((s.advance g p r).catalog p.db).table = r'.table := by
        rw [← hs']
        simp [advance]
      rw [htable]
      rcases Proc.table_of_step hr' with hsame | ⟨sub, sub', e, hpc, henabled, hloop, hr⟩
      · exact Or.inl hsame
      · exact Or.inr (Or.inr ⟨g, p, sub, sub', e, hproc, rfl, hpc, henabled, hloop, hr⟩)
    · exact Or.inl (by simp [advance, hne])
  | backend hstep =>
    cases hstep with
    | @commit t txn htxn hexecuted happlies =>
      left
      rcases eq_or_ne d txn.db with rfl | hne
      · simp
      · simp [hne]
    | @created d' =>
      left
      rcases eq_or_ne d d' with rfl | hne
      · simp
      · simp [hne]
    | @dropped d' table hnone =>
      rcases eq_or_ne d d' with rfl | hne
      · right
        left
        unfold step at h
        dsimp only at h
        split_ifs at h with htxns hfalse
        · exact hfalse.elim
        · rw [← Option.some.inj h]
          simp
      · exact Or.inl (by simp [hne])
    | _ => exact Or.inl rfl
  | _ => exact Or.inl rfl

/-- The pair was in the table at the start, or the bus has accepted a `Subscribe` for it and for
this database. -/
def Known (initial : Oid → Catalog) (s : System) (d : Oid) (pair : String × String) : Prop :=
  pair ∈ (initial d).table.subscriptions ∨ .subscribe d pair.1 pair.2 ∈ s.accepted

/-- Every pair, wherever it is, is known. -/
structure OnlySubscribed (initial : Oid → Catalog) (s : System) : Prop where
  /-- The tables. -/
  tables : ∀ d, (s.catalog d).table.Vouched (Known initial s d) (initial d).table.calls
  /-- The workers. -/
  loops : ∀ (g : ℕ) (p : Proc) (sub : Subscriber), s.procs[g]? = some p → p.pc = .looping sub →
    sub.Vouched (Known initial s p.db)

variable {initial : Oid → Catalog}

/-- What is known stays known. -/
theorem Known.step {d : Oid} {pair : String × String} (h : Transition s e s')
    (hknown : Known initial s d pair) : Known initial s' d pair := by
  refine hknown.imp id fun hmem => ?_
  rcases bus_of_step h with ⟨_, _, _, -, -, -, haccepted, -⟩ | ⟨news, -, haccepted, -⟩
  · rw [haccepted]
    exact hmem
  · rw [haccepted]
    exact List.mem_append_left _ hmem

/-- What the launcher is sending to a worker as a subscription is known for its database. -/
theorem known_of_sending (horder : s.InOrder) {g : ℕ} {p : Proc} {subject f : String}
    (hproc : s.procs[g]? = some p) (hlauncher : s.launcher = .sending g (.subscribe subject f)) :
    Known initial s p.db (subject, f) := by
  have hforwarded := horder.forwarded g p hproc
  rw [sendingTo_eq hlauncher] at hforwarded
  have hmem : SubscriberMessage.subscribe subject f ∈ forwardsFor s.taken g :=
    hforwarded.subset (List.mem_append_right _ (List.mem_singleton.mpr rfl))
  obtain ⟨⟨msg, worker⟩, htaken, hforward⟩ := List.mem_filterMap.mp hmem
  dsimp only at hforward
  split_ifs at hforward with hworker
  subst hworker
  -- What was taken for the worker is of its database, and was accepted.
  have hdb : msg.dbOid = p.db := (horder.own msg g htaken).unique ⟨p, hproc, rfl⟩
  right
  rw [horder.fifo]
  refine List.mem_append_left _ (List.mem_map.mpr ⟨_, htaken, ?_⟩)
  cases msg <;> cases hforward
  exact congrArg (LauncherMessage.subscribe · subject f) hdb

/-- Every step keeps the pairs known. -/
theorem onlySubscribed_step (horder : s.InOrder) (hs : s.OnlySubscribed initial)
    (h : step s e = some s') : s'.OnlySubscribed initial := by
  have htransition := transition_of_step h
  have hmono : ∀ d pair, Known initial s d pair → Known initial s' d pair :=
    fun d pair => Known.step htransition
  constructor
  · intro d
    have hdb := (hs.tables d).mono (hmono d)
    rcases table_of_step h d with hsame | hempty |
        ⟨g, p, sub, sub', e', hproc, rfl, hpc, henabled, hloop, htable⟩
    · rw [hsame]
      exact hdb
    · rw [hempty]
      exact ⟨fun row hrow => absurd hrow List.not_mem_nil, hdb.calls⟩
    · have hsub := (hs.loops g p sub hproc hpc).mono (hmono p.db)
      rw [htable]
      exact (Subscriber.vouched_loop hsub hdb henabled hloop).2
  · intro g p' sub' hproc' hpc'
    rcases proc_before htransition hproc' with ⟨p, hproc, hchange⟩ | ⟨d, db_name, hstart, rfl, rfl⟩
    · cases hchange with
      | same terminating hterminating hother => exact (hs.loops g p sub' hproc hpc').mono (hmono _)
      | @received msg sub he hlauncher hlauncher' hpc =>
        obtain rfl := Pc.looping.inj hpc'
        have hsub := (hs.loops g p sub hproc hpc).mono (hmono p.db)
        refine ⟨hsub.registered, hsub.channel, fun subject f hmem => ?_⟩
        rcases List.mem_append.mp hmem with hold | hnew
        · exact hsub.queue subject f hold
        · rw [← List.mem_singleton.mp hnew] at hlauncher
          exact hmono p.db _ (known_of_sending horder hproc hlauncher)
      | moved he hlock hstep hs' =>
        have hdb := (hs.tables p.db).mono (hmono p.db)
        cases hstep with
        | attach hpc =>
          obtain rfl := Pc.looping.inj hpc'
          exact Subscriber.vouched_start hdb.rows _ _ _
        | @loop sub sub'' e' hpc henabled hloop =>
          obtain rfl := Pc.looping.inj hpc'
          have hsub := (hs.loops g p sub hproc hpc).mono (hmono p.db)
          exact (Subscriber.vouched_loop hsub hdb henabled hloop).1
        | _ => cases hpc'
    · cases hpc'

/-- In every reachable state, whatever the interleaving and the failures, every row of a database's
table was there at the start or was asked for by a `Subscribe` that the bus has accepted for this
database, and every callback call since the start is of a function that was. -/
theorem only_subscribed_called {oids : List Oid} (hoids : oids.Nodup) {es : List Event}
    (hrun : Run.run step (init oids initial) es = some s) (d : Oid) :
    (∀ row ∈ (s.catalog d).table.subscriptions, row ∈ (initial d).table.subscriptions ∨
      .subscribe d row.1 row.2 ∈ s.accepted) ∧
    ∀ call ∈ (s.catalog d).table.calls, call ∈ (initial d).table.calls ∨ ∃ subject,
      (subject, call.1) ∈ (initial d).table.subscriptions ∨
        .subscribe d subject call.1 ∈ s.accepted := by
  have hwf : ∀ s e s', WellFormed s ∧ InOrder s → step s e = some s' →
      WellFormed s' ∧ InOrder s' := fun s e s' hs h =>
    ⟨wellFormed_step hs.1 (transition_of_step h), inOrder_step hs.1 hs.2 (transition_of_step h)⟩
  have hkeep : ∀ s e s', WellFormed s ∧ InOrder s → OnlySubscribed initial s → True →
      step s e = some s' → OnlySubscribed initial s' :=
    fun s e s' hs honly _ h => onlySubscribed_step hs.2 honly h
  have hinit : (init oids initial).OnlySubscribed initial := by
    refine ⟨fun d => ⟨fun row hrow => Or.inl hrow, fun call hcall => Or.inl hcall⟩, ?_⟩
    intro g p sub hproc
    cases hproc
  obtain ⟨-, h⟩ := Run.run_invariant_under hwf hkeep
    ⟨wellFormed_init hoids initial, inOrder_init oids initial⟩ hinit
    (Run.RunAll.of_forall_mem fun _ _ => trivial) hrun
  exact ⟨(h.tables d).rows, (h.tables d).calls⟩

/-- The worker handles the second of two requests, and a message of its subject arrives. -/
def secondCalled : List Event := secondOnly ++ [
  .proc 0 (.loop (.report 0 (.ok [1]))), .proc 0 (.loop (.internalRecv fun _ => .ok ()))]

/-- The called function is that of the second request. -/
theorem only_subscribed_called_second :
    ∃ s, Run.run step (init [5] fun _ => configured) secondCalled = some s ∧
      (s.catalog 5).table.calls = [("g", [1])] ∧
      ∃ subject, (subject, "g") ∈ configured.table.subscriptions ∨
        .subscribe 5 subject "g" ∈ s.accepted := by
  obtain ⟨s, hrun, hcalls⟩ : ∃ s,
      Run.run step (init [5] fun _ => configured) secondCalled = some s ∧
      (s.catalog 5).table.calls = [("g", [1])] := ⟨_, rfl, rfl⟩
  have hcall := (only_subscribed_called (by decide : ([5] : List Oid).Nodup) hrun 5).2 ("g", [1])
    (by rw [hcalls]; exact List.mem_singleton.mpr rfl)
  exact ⟨s, hrun, hcalls, hcall.resolve_left List.not_mem_nil⟩

end System

end PgNats
