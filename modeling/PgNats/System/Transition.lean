import PgNats.System.Basic

/-!
# What a step of the system can do

`ProcTransition` lists what a step of a subscriber process can do, `BackendTransition` what a step
of a backend can do, and `Transition` what a step of the system can do. The invariants of the
following modules are proved by cases on these, and never unfold the step functions.
-/

namespace PgNats

/-- The ways in which a process makes a step. -/
inductive ProcTransition (p : Proc) (catalog : Catalog) : ProcEvent → ProcStep → Prop where
  /-- It ends without a report. -/
  | abandon (hpc : p.pc = .starting) :
    ProcTransition p catalog .abandon ⟨.exited false, none, catalog.table⟩
  /-- It sees the committed status. -/
  | check (hpc : p.pc = .starting) :
    ProcTransition p catalog .check ⟨.reporting catalog.status, none, catalog.table⟩
  /-- It reports that all is there, and goes on. -/
  | reportExist (hpc : p.pc = .reporting .exist) :
    ProcTransition p catalog (.report true)
      ⟨.fetching, some (.dbExtensionStatus p.db .exist), catalog.table⟩
  /-- It reports another status, and leaves. -/
  | reportOther {status : ExtensionStatus} (hpc : p.pc = .reporting status)
    (hstatus : status ≠ .exist) :
    ProcTransition p catalog (.report true)
      ⟨.leaving false (.ok ()), some (.dbExtensionStatus p.db status), catalog.table⟩
  /-- The bus does not take its report, and it leaves. -/
  | reportRefused {status : ExtensionStatus} {reason : Except String Unit}
    (hpc : p.pc = .reporting status) :
    ProcTransition p catalog (.report false) ⟨.leaving false reason, none, catalog.table⟩
  /-- It reads the configuration. -/
  | fetch (hpc : p.pc = .fetching) :
    ProcTransition p catalog .fetch
      ⟨.connecting (fetchConfig catalog.servers), none, catalog.table⟩
  /-- It connects. -/
  | connect {config : Config} (hpc : p.pc = .connecting config) :
    ProcTransition p catalog .connect ⟨.attaching config, none, catalog.table⟩
  /-- It enters its loop. -/
  | attach {config : Config} {env : Env} (hpc : p.pc = .attaching config) :
    ProcTransition p catalog (.attach env)
      ⟨.looping (Subscriber.start catalog.table [] config env), none, catalog.table⟩
  /-- A part of its start-up fails, and it leaves without having attached. -/
  | fail {reason : String} (hpc : p.pc = .fetching ∨ (∃ config, p.pc = .connecting config) ∨
      ∃ config, p.pc = .attaching config) :
    ProcTransition p catalog (.fail reason)
      ⟨.leaving false (.error reason), none, catalog.table⟩
  /-- It stays in its loop. -/
  | loop {sub sub' : Subscriber} {e : Subscriber.Event} (hpc : p.pc = .looping sub)
    (henabled : loopEnabled p.terminating catalog e = true)
    (hstep : Subscriber.step { sub with db := catalog.table } e = some sub') :
    ProcTransition p catalog (.loop e) ⟨.looping sub', none, sub'.db⟩
  /-- It leaves its loop. -/
  | leave {sub : Subscriber} {table : Database} {e : Subscriber.Event}
    {result : Except String Unit} (hpc : p.pc = .looping sub)
    (hcause : (catalog.status ≠ .exist ∧ ∃ env, e = .wake catalog.status env) ∨
      p.terminating = true) :
    ProcTransition p catalog (.loop e) ⟨.leaving true result, none, table⟩
  /-- It ends, and the bus takes its report. -/
  | exit {attached : Bool} {reason : Except String Unit} (hpc : p.pc = .leaving attached reason) :
    ProcTransition p catalog (.exit true)
      ⟨.exited attached, some (.subscriberExit p.db reason), catalog.table⟩
  /-- It ends, and the bus does not take its report. -/
  | exitRefused {attached : Bool} {reason : Except String Unit}
    (hpc : p.pc = .leaving attached reason) :
    ProcTransition p catalog (.exit false) ⟨.exited attached, none, catalog.table⟩

/-- A step of the loop that ends it is a check that fails, or comes from outside. -/
theorem loop_exit_cause {sub sub' : Subscriber} {e : Subscriber.Event} {catalog : Catalog}
    {terminating : Bool} {result : Except String Unit}
    (henabled : loopEnabled terminating catalog e = true)
    (hstep : sub.step e = some sub') (hphase : sub'.phase = .exited result) :
    (catalog.status ≠ .exist ∧ ∃ env, e = .wake catalog.status env) ∨ terminating = true := by
  cases Subscriber.transition_of_step hstep with
  | deliver msg hlive => exact absurd hphase (hlive _)
  | report hlive htask => exact absurd hphase (hlive _)
  | wake hwaiting => exact absurd hphase (by simp)
  | sharedRecv hshared hrecv => exact absurd (hshared.symm.trans hphase) (by simp)
  | sharedEmpty hshared => exact absurd hphase (by simp)
  | @internalRecv outcome msg rest hinternal hsender =>
    have hsame : (sub.internal outcome msg rest).phase = sub.phase := by
      unfold Subscriber.internal
      dsimp only
      split_ifs <;> rfl
    exact absurd (hinternal.symm.trans (hsame.symm.trans hphase)) (by simp)
  | internalEmpty hinternal hsender => exact absurd hphase (by simp)
  | exit result hcause =>
    rcases hcause with ⟨status, env, rfl, hstatus⟩ | rfl | rfl
    · have hseen : status = catalog.status := by simpa [loopEnabled] using henabled
      exact Or.inl ⟨hseen ▸ hstatus, env, by rw [hseen]⟩
    · exact Or.inr henabled
    · exact Or.inr henabled
  | restart config env => exact absurd henabled Bool.false_ne_true

/-- Every step of a process is one of the transitions. -/
theorem procTransition_of_step {p : Proc} {catalog : Catalog} {e : ProcEvent} {r : ProcStep}
    (h : p.step catalog e = some r) : ProcTransition p catalog e r := by
  unfold Proc.step at h
  cases e with
  | abandon =>
    dsimp only at h
    split at h
    · next hpc => exact Option.some.inj h ▸ .abandon hpc
    · exact absurd h (by simp)
  | check =>
    dsimp only at h
    split at h
    · next hpc => exact Option.some.inj h ▸ .check hpc
    · exact absurd h (by simp)
  | report room =>
    dsimp only at h
    split at h
    · next hpc => exact Option.some.inj h ▸ .reportExist hpc
    · next hne hpc => exact Option.some.inj h ▸ .reportOther hpc hne
    · next hpc => exact Option.some.inj h ▸ .reportRefused hpc
    · exact absurd h (by simp)
  | fetch =>
    dsimp only at h
    split at h
    · next hpc => exact Option.some.inj h ▸ .fetch hpc
    · exact absurd h (by simp)
  | connect =>
    dsimp only at h
    split at h
    · next hpc => exact Option.some.inj h ▸ .connect hpc
    · exact absurd h (by simp)
  | attach env =>
    dsimp only at h
    split at h
    · next hpc => exact Option.some.inj h ▸ .attach hpc
    · exact absurd h (by simp)
  | fail reason =>
    dsimp only at h
    split at h
    · next hpc => exact Option.some.inj h ▸ .fail (Or.inl hpc)
    · next hpc => exact Option.some.inj h ▸ .fail (Or.inr (Or.inl ⟨_, hpc⟩))
    · next hpc => exact Option.some.inj h ▸ .fail (Or.inr (Or.inr ⟨_, hpc⟩))
    · exact absurd h (by simp)
  | loop e =>
    dsimp only at h
    split at h
    · next sub hpc =>
      split_ifs at h with henabled
      obtain ⟨sub', hstep, hr⟩ := Option.map_eq_some_iff.mp h
      split at hr
      · next result hphase =>
        rw [← hr]
        exact .leave hpc (loop_exit_cause henabled hstep hphase)
      · exact hr ▸ .loop hpc henabled hstep
    · exact absurd h (by simp)
  | exit room =>
    dsimp only at h
    split at h
    · next hpc =>
      cases room with
      | true => exact Option.some.inj h ▸ .exit hpc
      | false => exact Option.some.inj h ▸ .exitRefused hpc
    · exact absurd h (by simp)

/-- A process that makes a step has not exited. -/
theorem ProcTransition.not_exited {p : Proc} {catalog : Catalog} {e : ProcEvent} {r : ProcStep}
    (h : ProcTransition p catalog e r) (attached : Bool) : p.pc ≠ .exited attached := by
  cases h with
  | fail hpc => rcases hpc with hpc | ⟨config, hpc⟩ | ⟨config, hpc⟩ <;> simp [hpc]
  | _ => simp [*]

namespace System

/-- A process that is gone. -/
def Gone (s : System) (g : ℕ) : Prop := ∃ p attached, s.procs[g]? = some p ∧ p.pc = .exited attached

/-- The state after the launcher has taken a message, before the effect of its handler. -/
def taking (s : System) (item : Item) (rest : List Item) (ctx : LauncherContext) : System :=
  { s with
    bus := rest
    ctx
    taken := s.taken ++ [(item.msg, (s.ctx.entry? item.msg.dbOid).map WorkerEntry.worker)] }

/-- The ways in which a backend makes a step. -/
inductive BackendTransition (s : System) : Event → System → Prop where
  /-- A request is on the bus. -/
  | request {subscribe : Bool} {d : Oid} {subject fn_name : String} (hlock : ¬ s.Locked) :
    BackendTransition s (.request subscribe d subject fn_name)
      (s.put (if subscribe then .subscribe d subject fn_name else .unsubscribe d subject fn_name)
        none)
  /-- A statement begins. -/
  | ddl {d : Oid} {change : Change} (hlock : change.options?.isSome → ¬ s.Locked)
    (hinstalled : (s.catalog d).installed = true)
    (happlies : change.Applies (s.catalog d).servers) :
    BackendTransition s (.ddl d change) (s.begin d change)
  /-- A statement is executed. -/
  | execute {t : ℕ} {txn : Txn} (htxn : s.txns.lookup t = some txn)
    (happlies : txn.change.Applies (s.catalog txn.db).servers) :
    BackendTransition s (.execute t)
      { s with txns := s.txns.insert t { txn with executed := true } }
  /-- The trigger rejects a second server, and the transaction is rolled back. -/
  | reject {t : ℕ} {txn : Txn} (htxn : s.txns.lookup t = some txn)
    (hcreate : ∃ name options, txn.change = .create name options)
    (hservers : (s.catalog txn.db).servers ≠ []) :
    BackendTransition s (.execute t) { s with txns := s.txns.erase t }
  /-- A transaction commits. -/
  | commit {t : ℕ} {txn : Txn} (htxn : s.txns.lookup t = some txn)
    (hexecuted : txn.executed = true)
    (happlies : txn.change.Applies (s.catalog txn.db).servers) :
    BackendTransition s (.commit t) { s with
      txns := s.txns.erase t
      catalog := Function.update s.catalog txn.db { s.catalog txn.db with
        servers := txn.change.apply (s.catalog txn.db).servers } }
  /-- A transaction is rolled back. -/
  | rollback {t : ℕ} {txn : Txn} (htxn : s.txns.lookup t = some txn) :
    BackendTransition s (.rollback t) { s with txns := s.txns.erase t }
  /-- The extension is created. -/
  | created {d : Oid} :
    BackendTransition s (.extension d true)
      { s with catalog := Function.update s.catalog d { s.catalog d with installed := true } }
  /-- The extension is dropped, with its servers and its table. -/
  | dropped {d : Oid} {table : Database}
    (hnone : ∀ t txn, s.txns.lookup t = some txn → txn.db ≠ d) :
    BackendTransition s (.extension d false) { s with
      catalog := Function.update s.catalog d { installed := false, servers := [], table } }

/-- A backend changes neither the launcher nor a subscriber, and it adds only its own messages to
the bus. -/
theorem BackendTransition.frame {s s' : System} {e : Event} (h : BackendTransition s e s') :
    s'.launcher = s.launcher ∧ s'.ctx = s.ctx ∧ s'.procs = s.procs ∧ s'.taken = s.taken ∧
      ∃ msgs : List LauncherMessage, (∀ msg ∈ msgs, msg.FromBackend) ∧
        s'.bus = s.bus ++ msgs.map (fun msg => ⟨msg, none⟩) ∧ s'.accepted = s.accepted ++ msgs := by
  cases h with
  | @request subscribe d subject fn_name hlock =>
    refine ⟨rfl, rfl, rfl, rfl, [_], ?_, rfl, rfl⟩
    intro msg hmsg
    rw [List.mem_singleton.mp hmsg]
    cases subscribe <;> trivial
  | @ddl d change hlock hinstalled happlies =>
    refine ⟨rfl, rfl, rfl, rfl, change.config?.toList.map (.newConfig d), ?_, ?_, rfl⟩
    · intro msg hmsg
      obtain ⟨config, -, rfl⟩ := List.mem_map.mp hmsg
      trivial
    · rw [List.map_map]
      rfl
  | execute htxn happlies => exact ⟨rfl, rfl, rfl, rfl, [], by simp⟩
  | reject htxn hcreate hservers => exact ⟨rfl, rfl, rfl, rfl, [], by simp⟩
  | commit htxn hexecuted happlies => exact ⟨rfl, rfl, rfl, rfl, [], by simp⟩
  | rollback htxn => exact ⟨rfl, rfl, rfl, rfl, [], by simp⟩
  | created => exact ⟨rfl, rfl, rfl, rfl, [], by simp⟩
  | dropped hnone => exact ⟨rfl, rfl, rfl, rfl, [], by simp⟩

/-- The ways in which the system makes a step. -/
inductive Transition (s : System) : Event → System → Prop where
  /-- A subscriber of the list is started. -/
  | boot {oid : Oid} {oids : List Oid} {db_name : String}
    (hlauncher : s.launcher = .starting (oid :: oids)) :
    Transition s (.boot (some db_name)) (perform { s with
      launcher := .starting oids
      ctx := { s.ctx with
        counter := s.ctx.counter + 1
        pending_workers := s.ctx.pending_workers.insert oid ⟨db_name, oid, s.ctx.counter⟩ } }
      (some (.start ⟨db_name, oid, s.ctx.counter⟩)))
  /-- The start of a subscriber of the list fails. -/
  | bootFailed {oid : Oid} {oids : List Oid} (hlauncher : s.launcher = .starting (oid :: oids)) :
    Transition s (.boot none) { s with launcher := .starting oids }
  /-- The list is done. -/
  | booted {started : Option String} (hlauncher : s.launcher = .starting []) :
    Transition s (.boot started) { s with launcher := .idle }
  /-- The terminated workers are gone, and the launcher takes the lock. -/
  | wake (hlauncher : s.launcher = .idle)
    (hgone : ∀ d entry, s.ctx.terminated_workers.lookup d = some entry → s.Gone entry.worker) :
    Transition s .wake
      { s with launcher := .draining, ctx := s.ctx.processTerminatedWorkers }
  /-- The launcher handles a message. -/
  | recv {item : Item} {rest : List Item} {started : Option String} {ctx : LauncherContext}
    {effect : Option Effect} (hlauncher : s.launcher = .draining) (hbus : s.bus = item :: rest)
    (hhandling : Handling s.ctx started item.msg ctx effect) :
    Transition s (.recv started) ((s.taking item rest ctx).perform effect)
  /-- The receiver reads the message. -/
  | sent {worker : ℕ} {msg : SubscriberMessage} {p : Proc} {sub : Subscriber}
    (hlauncher : s.launcher = .sending worker msg) (hproc : s.procs[worker]? = some p)
    (hpc : p.pc = .looping sub) :
    Transition s .sent { s with
      launcher := .draining
      procs := s.procs.set worker { p with
        pc := .looping { sub with recv := sub.recv ++ [msg] }
        delivered := p.delivered ++ [msg] } }
  /-- The receiver has detached. -/
  | sendFailed {worker : ℕ} {msg : SubscriberMessage} {p : Proc}
    (hlauncher : s.launcher = .sending worker msg) (hproc : s.procs[worker]? = some p)
    (hpc : (∃ reason, p.pc = .leaving true reason) ∨ p.pc = .exited true) :
    Transition s .sendFailed { s with launcher := .draining }
  /-- The bus is empty, and the launcher releases the lock. -/
  | unlock (hlauncher : s.launcher = .draining) (hbus : s.bus = []) :
    Transition s .unlock { s with launcher := .idle }
  /-- A process makes a step. -/
  | proc {g : ℕ} {e : ProcEvent} {p : Proc} {r : ProcStep} (hproc : s.procs[g]? = some p)
    (hlock : e.locks = true → ¬ s.Locked)
    (hstep : ProcTransition p (s.catalog p.db) e r) :
    Transition s (.proc g e) (s.advance g p r)
  /-- A backend makes a step. -/
  | backend {e : Event} {s' : System} (hstep : BackendTransition s e s') : Transition s e s'

/-- The launcher's next message is handled in one of the listed ways. -/
theorem take_eq (s : System) (item : Item) (rest : List Item) (started : Option String) :
    ∃ ctx effect, Handling s.ctx started item.msg ctx effect ∧
      s.take item rest started = (s.taking item rest ctx).perform effect :=
  ⟨_, _, LauncherContext.handling_of_handle s.ctx started item.msg, rfl⟩

/-- A value of a map of transactions is that of one of its keys. -/
theorem any_values_eq_false {txns : HashMap ℕ Txn} {d : Oid}
    (h : (txns.values.any fun txn => txn.db == d) = false) {t : ℕ} {txn : Txn}
    (htxn : txns.lookup t = some txn) : txn.db ≠ d := by
  rintro rfl
  rw [List.any_eq_false] at h
  exact h txn (HashMap.mem_values_iff.mpr ⟨t, htxn⟩) (by simp)

/-- A statement is executed, or its trigger rejects it. -/
theorem backendTransition_of_executeTxn {s s' : System} {t : ℕ} {txn : Txn}
    (htxn : s.txns.lookup t = some txn) (h : s.executeTxn t txn = some s') :
    BackendTransition s (.execute t) s' := by
  unfold executeTxn at h
  dsimp only at h
  split at h
  · next hchange =>
    split_ifs at h with hcount
    · refine Option.some.inj h ▸ .reject htxn ⟨_, _, hchange⟩ ?_
      -- The trigger counts the new server too.
      intro hnil
      rw [hnil] at hcount
      exact absurd hcount (by simp)
    · exact Option.some.inj h ▸ .execute htxn (by rw [hchange]; trivial)
  · next hchange =>
    split_ifs at h with happlies
    exact Option.some.inj h ▸ .execute htxn (hchange ▸ happlies.1)
  · next hchange =>
    split_ifs at h with happlies
    exact Option.some.inj h ▸ .execute htxn (hchange ▸ happlies.1)

/-- Every step is one of the transitions. -/
theorem transition_of_step {s s' : System} {e : Event} (h : step s e = some s') :
    Transition s e s' := by
  unfold step at h
  cases e with
  | boot started =>
    dsimp only at h
    split at h
    · next oid oids hlauncher =>
      cases started with
      | some db_name => exact Option.some.inj h ▸ .boot hlauncher
      | none => exact Option.some.inj h ▸ .bootFailed hlauncher
    · next hlauncher => exact Option.some.inj h ▸ .booted hlauncher
    · exact absurd h (by simp)
  | wake =>
    dsimp only at h
    split_ifs at h with hwaited
    obtain ⟨hlauncher, hall⟩ := hwaited
    refine Option.some.inj h ▸ .wake hlauncher fun d entry hentry => ?_
    have hthis := List.all_eq_true.mp hall entry (HashMap.mem_values_iff.mpr ⟨d, hentry⟩)
    split at hthis
    · next hproc => exact ⟨_, _, hproc, rfl⟩
    · exact absurd hthis Bool.false_ne_true
  | recv started =>
    dsimp only at h
    split at h
    · next item rest hlauncher hbus =>
      obtain ⟨ctx, effect, hhandling, htake⟩ := take_eq s item rest started
      rw [← Option.some.inj h, htake]
      exact .recv hlauncher hbus hhandling
    · exact absurd h (by simp)
  | sent =>
    dsimp only at h
    split at h
    · next worker msg hlauncher =>
      split at h
      · next p hproc =>
        split at h
        · next sub hpc =>
          obtain ⟨sub', hdeliver, hs'⟩ := Option.map_eq_some_iff.mp h
          cases Subscriber.transition_of_step hdeliver with
          | deliver _ hlive => exact hs' ▸ .sent hlauncher hproc hpc
          | exit result hcause => simp at hcause
        · exact absurd h (by simp)
      · exact absurd h (by simp)
    · exact absurd h (by simp)
  | sendFailed =>
    dsimp only at h
    split at h
    · next worker msg hlauncher =>
      split at h
      · next p hproc =>
        split at h
        · next hpc => exact Option.some.inj h ▸ .sendFailed hlauncher hproc (Or.inl ⟨_, hpc⟩)
        · next hpc => exact Option.some.inj h ▸ .sendFailed hlauncher hproc (Or.inr hpc)
        · exact absurd h (by simp)
      · exact absurd h (by simp)
    · exact absurd h (by simp)
  | unlock =>
    dsimp only at h
    split_ifs at h with hempty
    exact Option.some.inj h ▸ .unlock hempty.1 hempty.2
  | proc g e =>
    dsimp only at h
    split at h
    · next p hproc =>
      split_ifs at h with hlock
      obtain ⟨r, hstep, hs'⟩ := Option.map_eq_some_iff.mp h
      rw [← hs']
      exact .proc hproc (fun hneeds hlocked => hlock ⟨hneeds, hlocked⟩)
        (procTransition_of_step hstep)
    · exact absurd h (by simp)
  | request subscribe d subject fn_name =>
    dsimp only at h
    by_cases hlock : s.Locked
    · rw [if_pos hlock] at h
      exact absurd h (by simp)
    · rw [if_neg hlock] at h
      exact Option.some.inj h ▸ .backend (.request hlock)
  | ddl d change =>
    dsimp only at h
    split_ifs at h with hguard
    simp only [not_or, not_and, Bool.not_eq_false, not_not] at hguard
    exact Option.some.inj h ▸ .backend (.ddl hguard.1 hguard.2.1 hguard.2.2)
  | execute t =>
    dsimp only at h
    split at h
    · next txn htxn =>
      split_ifs at h with hexecuted
      exact .backend (backendTransition_of_executeTxn htxn h)
    · exact absurd h (by simp)
  | commit t =>
    dsimp only at h
    split at h
    · next txn htxn =>
      split_ifs at h with hguard
      exact Option.some.inj h ▸ .backend (.commit htxn hguard.1 hguard.2)
    · exact absurd h (by simp)
  | rollback t =>
    dsimp only at h
    split at h
    · next txn htxn => exact Option.some.inj h ▸ .backend (.rollback htxn)
    · exact absurd h (by simp)
  | extension d installed =>
    dsimp only at h
    split_ifs at h with hopen hinstalled
    · subst hinstalled
      exact Option.some.inj h ▸ .backend .created
    · obtain rfl : installed = false := by simpa using hinstalled
      exact Option.some.inj h ▸ .backend (.dropped fun t txn htxn =>
        any_values_eq_false (by simpa using hopen) htxn)

end System

end PgNats
