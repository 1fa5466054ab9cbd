import PgNats.System.WellFormed

/-!
# Whether a configured database has a running worker

The one thing that starts a worker after the launcher is up is the message of the validator, which
the bus gets before the transaction of `CREATE SERVER` commits. The worker looks at the committed
catalog, so it may find no server and leave, and when the transaction commits nothing starts another
one. The message is also lost on a worker that is about to leave, and the report of a predecessor
may shut the new worker down.

`running_of_quiescent` says when a database that has a server has a running worker once all is
quiet. While a server is there or being created, and no further configuration of the database is on
the bus, a worker must not look at a catalog without the server, the launcher must not take the
configuration off the bus while the worker of the database is on its way out, and it must not shut
down a worker that is not (`RunningSafe`). The invariant is `Served`: a server that is there or
being created has been announced by a message that is still on the bus, or the database has an entry
with a healthy worker, or the launcher has still to start its worker.
-/

namespace PgNats

/-- Whether the message is a configuration of this database. -/
def LauncherMessage.configures (d : Oid) : LauncherMessage → Bool
  | .newConfig d' _ => d' == d
  | _ => false

/-- Whether the statement creates a server. -/
def Change.creates : Change → Bool
  | .create _ _ => true
  | _ => false

/-- Whether the process is on its way to its loop or in it. -/
def Pc.healthy : Pc → Bool
  | .starting => true
  | .reporting status => status == .exist
  | .fetching => true
  | .connecting _ => true
  | .attaching _ => true
  | .looping _ => true
  | .leaving _ _ => false
  | .exited _ => false

/-- Whether the process has reported its status and not left. -/
def Pc.reported : Pc → Bool
  | .fetching => true
  | .connecting _ => true
  | .attaching _ => true
  | .looping _ => true
  | _ => false

/-- Whether the process is in its loop or gone. -/
def Pc.settled : Pc → Bool
  | .looping _ => true
  | .exited _ => true
  | _ => false

namespace System

/-- The worker is on its way to its loop or in it. -/
def Healthy (s : System) (g : ℕ) : Prop := ∃ p ∈ s.procs[g]?, p.pc.healthy

instance (s : System) (g : ℕ) : Decidable (s.Healthy g) :=
  inferInstanceAs (Decidable (∃ p ∈ s.procs[g]?, p.pc.healthy))

/-- The database has a server, or an open transaction creates one. -/
def Wanted (s : System) (d : Oid) : Prop :=
  (s.catalog d).servers ≠ [] ∨ ∃ txn ∈ s.txns.values, txn.db = d ∧ txn.change.creates

instance (s : System) (d : Oid) : Decidable (s.Wanted d) :=
  inferInstanceAs (Decidable ((s.catalog d).servers ≠ [] ∨
    ∃ txn ∈ s.txns.values, txn.db = d ∧ txn.change.creates))

/-- Whether a configuration of this database is on the bus. -/
def announced (bus : List Item) (d : Oid) : Bool := bus.any fun item => item.msg.configures d

/-- Whether a worker is not started in the event, or the bus does not take a report. -/
def Event.refused : Event → Bool
  | .boot started => started.isNone
  | .recv started => started.isNone
  | .proc _ (.report room) => !room
  | .proc _ (.exit room) => !room
  | _ => false

/-- The process that ends before its loop in the event. -/
def Event.failed? : Event → Option ℕ
  | .proc g .abandon => some g
  | .proc g (.fail _) => some g
  | _ => none

/-- The process that looks at the catalog in the event. -/
def Event.looks? : Event → Option ℕ
  | .proc g .check => some g
  | .proc g (.loop (.wake _ _)) => some g
  | _ => none

/-- Whether the launcher takes a message in the event. -/
def Event.takes : Event → Bool
  | .recv _ => true
  | _ => false

/-- What is assumed of a step: workers start, connect, and reach their loop unless they are
terminated before, and the bus has room for their reports. -/
def Assumed (s : System) (e : Event) : Prop :=
  e.refused = false ∧ ∀ g ∈ e.failed?, ∃ p ∈ s.procs[g]?, p.terminating

instance (s : System) (e : Event) : Decidable (s.Assumed e) :=
  inferInstanceAs (Decidable (e.refused = false ∧
    ∀ g ∈ e.failed?, ∃ p ∈ s.procs[g]?, p.terminating))

/-- The worker of its database does not look at a catalog without a server while one is being
created that no message on the bus announces. -/
def LooksSafe (s : System) (g : ℕ) : Prop :=
  ∀ p ∈ s.procs[g]?, (s.ctx.entry? p.db).map WorkerEntry.worker = some g → s.Wanted p.db →
    ¬ announced s.bus p.db → (s.catalog p.db).status = .exist

/-- What the launcher takes off the bus leaves a database that wants a worker with one, when no
further configuration of it is on the bus: a configuration does not come to a worker that is on its
way out, and a shutdown does not take one that is not. -/
def TakesSafe (s : System) : Prop :=
  ∀ item ∈ s.bus.head?, s.Wanted item.msg.dbOid → ¬ announced s.bus.tail item.msg.dbOid →
    ∀ entry ∈ s.ctx.entry? item.msg.dbOid,
      (item.msg.configures item.msg.dbOid → s.Healthy entry.worker) ∧
        (item.msg.ShutsDown → ¬ s.Healthy entry.worker)

instance (s : System) : Decidable s.TakesSafe :=
  inferInstanceAs (Decidable (∀ item ∈ s.bus.head?, s.Wanted item.msg.dbOid →
    ¬ announced s.bus.tail item.msg.dbOid → ∀ entry ∈ s.ctx.entry? item.msg.dbOid,
      (item.msg.configures item.msg.dbOid → s.Healthy entry.worker) ∧
        (item.msg.ShutsDown → ¬ s.Healthy entry.worker)))

instance (s : System) (g : ℕ) : Decidable (s.LooksSafe g) :=
  inferInstanceAs (Decidable (∀ p ∈ s.procs[g]?,
    (s.ctx.entry? p.db).map WorkerEntry.worker = some g → s.Wanted p.db →
      ¬ announced s.bus p.db → (s.catalog p.db).status = .exist))

/-- The condition on a step. -/
def RunningSafe (s : System) (e : Event) : Prop :=
  (e.takes → s.TakesSafe) ∧ ∀ g ∈ e.looks?, s.LooksSafe g

instance (s : System) (e : Event) : Decidable (s.RunningSafe e) :=
  inferInstanceAs (Decidable ((e.takes → s.TakesSafe) ∧ ∀ g ∈ e.looks?, s.LooksSafe g))

/-- The bus is empty, the launcher is idle, every subscriber is in its loop or gone, and no
transaction is open. -/
structure Quiescent (s : System) : Prop where
  /-- The bus is empty. -/
  bus : s.bus = []
  /-- The launcher is idle. -/
  launcher : s.launcher = .idle
  /-- No subscriber is starting or exiting. -/
  procs : ∀ p ∈ s.procs, p.pc.settled
  /-- No transaction is open. -/
  txns : s.txns.values = []

/-- The invariant. -/
structure Served (s : System) : Prop where
  /-- The worker of an entry was not terminated. -/
  alive : ∀ d entry p, s.ctx.Has d entry → s.procs[entry.worker]? = some p → p.terminating = false
  /-- The report of a pending worker that has made it is on the bus. -/
  pending : ∀ d entry p, s.ctx.pending_workers.lookup d = some entry →
    s.procs[entry.worker]? = some p → p.pc.reported →
    ∃ item ∈ s.bus, item.msg = .dbExtensionStatus d .exist
  /-- A server that is there or being created is announced, or served, or the launcher has still to
  start its worker. -/
  served : ∀ d, s.Wanted d → announced s.bus d ∨
    (∃ entry, s.ctx.Has d entry ∧ s.Healthy entry.worker) ∨
    ∃ oids, s.launcher = .starting oids ∧ d ∈ oids

variable {s s' : System} {e : Event}

/-- A database is announced by a configuration of it on the bus. -/
theorem announced_iff {bus : List Item} {d : Oid} :
    announced bus d = true ↔ ∃ item ∈ bus, item.msg.configures d := List.any_eq_true

/-- What a configuration of a database is. -/
theorem configures_iff {msg : LauncherMessage} {d : Oid} :
    msg.configures d = true ↔ ∃ config, msg = .newConfig d config := by
  cases msg with
  | newConfig d' config =>
    constructor
    · intro h
      obtain rfl : d' = d := by simpa [LauncherMessage.configures] using h
      exact ⟨config, rfl⟩
    · rintro ⟨config', heq⟩
      obtain ⟨rfl, -⟩ := LauncherMessage.newConfig.inj heq
      simp [LauncherMessage.configures]
  | _ => simp [LauncherMessage.configures]

/-- An announcement stays on the bus until the launcher takes it. -/
theorem announced_step (h : Transition s e s') {d : Oid} (hannounced : announced s.bus d) :
    announced s'.bus d ∨ ∃ started item, e = .recv started ∧ s.bus = item :: s'.bus ∧
      item.msg.configures d := by
  rcases bus_of_step h with ⟨started, item, effect, he, -, hbus, -⟩ | ⟨news, hbus, -⟩
  · rw [hbus, announced, List.any_cons, Bool.or_eq_true] at hannounced
    rcases hannounced with hconfigures | hrest
    · exact Or.inr ⟨started, item, he, hbus, hconfigures⟩
    · exact Or.inl hrest
  · left
    rw [hbus, announced, List.any_append, Bool.or_eq_true]
    exact Or.inl hannounced

/-- The end of a transaction makes no database want a worker. -/
theorem wanted_of_erase {t : ℕ} {d : Oid}
    (h : ({ s with txns := s.txns.erase t } : System).Wanted d) : s.Wanted d := by
  rcases h with hservers | ⟨txn, hmem, hdb, hcreates⟩
  · exact Or.inl hservers
  · exact Or.inr ⟨txn, HashMap.mem_values_erase hmem, hdb, hcreates⟩

/-- A new catalog of a database that wanted a worker before, if it has a server, makes no database
want one. -/
theorem wanted_of_update {d d' : Oid} {catalog : Catalog}
    (hservers : catalog.servers ≠ [] → s.Wanted d')
    (h : ({ s with catalog := Function.update s.catalog d' catalog } : System).Wanted d) :
    s.Wanted d := by
  rcases h with hne | htxn
  · rcases eq_or_ne d d' with rfl | hd
    · refine hservers ?_
      simpa using hne
    · left
      simpa [hd] using hne
  · exact Or.inr htxn

/-- A transaction that is about to commit was already wanting a worker for the server that it
leaves: it creates it, or it found a server to change. -/
theorem wanted_of_applies {t : ℕ} {txn : Txn} (htxn : s.txns.lookup t = some txn)
    (happlies : txn.change.Applies (s.catalog txn.db).servers) : s.Wanted txn.db := by
  cases hchange : txn.change with
  | create name options =>
    have hmem := HashMap.mem_values_iff.mpr ⟨t, htxn⟩
    exact Or.inr ⟨txn, hmem, rfl, by rw [hchange]; rfl⟩
  | alter name options =>
    left
    rw [hchange] at happlies
    obtain ⟨server, hserver, -⟩ := happlies
    exact List.ne_nil_of_mem hserver
  | drop name =>
    left
    rw [hchange] at happlies
    obtain ⟨server, hserver, -⟩ := happlies
    exact List.ne_nil_of_mem hserver

/-- A server is there or being created only if it was before the step, or the step announces it. -/
theorem wanted_of_step (h : Transition s e s') {d : Oid} (hwanted : s'.Wanted d) :
    s.Wanted d ∨ announced s'.bus d := by
  rcases catalog_of_step h with hbackend | ⟨hcatalog, htxns, -⟩
  · cases hbackend with
    | request hlock => exact Or.inl hwanted
    | @ddl d' change hlock hinstalled happlies =>
      rcases hwanted with hservers | ⟨txn, hmem, hdb, hcreates⟩
      · exact Or.inl (Or.inl hservers)
      · rcases HashMap.mem_values_insert hmem with rfl | hmem
        · -- The validator announces the server that the new transaction creates.
          right
          cases hchange : change with
          | create name options =>
            rw [announced_iff]
            refine ⟨⟨.newConfig d' (validatorConfig (optionTexts options)), none⟩, ?_, ?_⟩
            · exact List.mem_append_right _ List.mem_cons_self
            · exact configures_iff.mpr ⟨_, by rw [show d' = d from hdb]⟩
          | _ => exact absurd hcreates (by simp [hchange, Change.creates])
        · exact Or.inl (Or.inr ⟨txn, hmem, hdb, hcreates⟩)
    | @execute t txn htxn happlies =>
      left
      rcases hwanted with hservers | ⟨txn', hmem, hdb, hcreates⟩
      · exact Or.inl hservers
      · right
        rcases HashMap.mem_values_insert hmem with rfl | hmem
        · exact ⟨txn, HashMap.mem_values_iff.mpr ⟨t, htxn⟩, hdb, hcreates⟩
        · exact ⟨txn', hmem, hdb, hcreates⟩
    | reject htxn hcreate hservers => exact Or.inl (wanted_of_erase hwanted)
    | @commit t txn htxn hexecuted happlies =>
      left
      have hcommitted : ({ s with
          catalog := Function.update s.catalog txn.db { s.catalog txn.db with
            servers := txn.change.apply (s.catalog txn.db).servers } } : System).Wanted d :=
        wanted_of_erase (t := t) hwanted
      exact wanted_of_update (fun _ => wanted_of_applies htxn happlies) hcommitted
    | rollback htxn => exact Or.inl (wanted_of_erase hwanted)
    | created =>
      left
      refine wanted_of_update ?_ hwanted
      exact fun hne => Or.inl hne
    | dropped hnone =>
      left
      refine wanted_of_update ?_ hwanted
      exact fun hne => absurd rfl hne
  · left
    unfold Wanted at hwanted ⊢
    rwa [(hcatalog d).1, htxns] at hwanted

/-- The worker of an entry was not terminated, after any step. -/
theorem alive_step (hwf : s.WellFormed) (hs : s.Served) (h : Transition s e s') {d : Oid}
    {entry : WorkerEntry} {p' : Proc} (hhas' : s'.ctx.Has d entry)
    (hproc' : s'.procs[entry.worker]? = some p') : p'.terminating = false := by
  -- The entry was there before, or it is that of a process that has just started.
  rcases entry_before hwf h hhas' hproc' with ⟨hhas, p, hproc, hchange⟩ | ⟨db_name, hstart, -, rfl⟩
  · have hbefore := hs.alive d entry p hhas hproc
    cases hchange with
    | same terminating hterminating hother =>
      rcases hterminating with rfl | ⟨started, item, rest, entry', rfl, hbus, hshut, hhas'', hg⟩
      · exact hbefore
      · -- The entry of a terminated worker is gone.
        have hd : item.msg.dbOid = d := hwf.worker_inj hhas'' hhas hg
        rcases bus_of_step h with ⟨_, item', effect, -, -, hbus', -, -, hhandling, -⟩ |
            ⟨news, -, -, -, hnot⟩
        · obtain ⟨rfl, -⟩ := List.cons.inj (hbus.symm.trans hbus')
          exact absurd (hd ▸ hhas') (hhandling.not_has hshut (hwf.disjoint _) entry)
        · exact absurd rfl (hnot started)
    | received he hlauncher hlauncher' hpc => exact hbefore
    | moved he hlock hstep hs' => exact hbefore
  · rfl

/-- A process that has reported its status had done so before its move, or reports it now. -/
theorem reported_of_move {p : Proc} {catalog : Catalog} {pe : ProcEvent} {r : ProcStep}
    (h : ProcTransition p catalog pe r) (hreported : r.pc.reported) :
    p.pc.reported ∨ r.posted = some (.dbExtensionStatus p.db .exist) := by
  cases h with
  | reportExist hpc => exact Or.inr rfl
  | fetch hpc => rw [hpc]; exact Or.inl rfl
  | connect hpc => rw [hpc]; exact Or.inl rfl
  | attach hpc => rw [hpc]; exact Or.inl rfl
  | loop hpc henabled hstep => rw [hpc]; exact Or.inl rfl
  | _ => exact absurd hreported (by simp [Pc.reported])

/-- The report of a pending worker that has made it is on the bus, after any step. -/
theorem pending_step (hwf : s.WellFormed) (hs : s.Served) (h : Transition s e s') {d : Oid}
    {entry : WorkerEntry} {p' : Proc} (hpending' : s'.ctx.pending_workers.lookup d = some entry)
    (hproc' : s'.procs[entry.worker]? = some p') (hreported' : p'.pc.reported) :
    ∃ item ∈ s'.bus, item.msg = .dbExtensionStatus d .exist := by
  rcases pending_before hwf h hpending' hproc' with ⟨hpending, p, hproc, hchange⟩ | rfl
  · have hstays : p.pc.reported → ∃ item ∈ s'.bus, item.msg = .dbExtensionStatus d .exist := by
      intro hreported
      obtain ⟨item, hmem, hmsg⟩ := hs.pending d entry p hpending hproc hreported
      refine ⟨item, ?_, hmsg⟩
      rcases bus_of_step h with ⟨started, item', effect, -, -, hbus, -, -, hhandling, -⟩ |
          ⟨news, hbus, -⟩
      · rcases List.mem_cons.mp (hbus ▸ hmem) with rfl | hmem
        · -- The report is handled, and the worker is not pending any more.
          rw [hmsg] at hhandling
          exact absurd (hhandling.pending_of_exist.symm.trans hpending') (by simp)
        · exact hmem
      · rw [hbus]
        exact List.mem_append_left _ hmem
    cases hchange with
    | same terminating hterminating hother => exact hstays hreported'
    | received he hlauncher hlauncher' hpc => exact hstays (by rw [hpc]; rfl)
    | @moved pe r he hlock hstep hs' =>
      rcases reported_of_move hstep hreported' with hreported | hposted
      · exact hstays hreported
      · have hdb : p.db = d := hwf.db_eq (Or.inl hpending) hproc
        refine ⟨⟨.dbExtensionStatus p.db .exist, some entry.worker⟩, ?_, by rw [hdb]⟩
        rw [hs']
        refine List.mem_append_right _ (List.mem_map.mpr ⟨_, ?_, rfl⟩)
        exact Option.mem_toList.mpr hposted
  · exact absurd hreported' (by simp [fresh, Pc.reported])

/-- The worker of a database that wants one stays healthy. -/
theorem healthy_step (hwf : s.WellFormed) (hs : s.Served) (hassumed : s.Assumed e)
    (hok : s.RunningSafe e) (h : Transition s e s') {d : Oid} {entry : WorkerEntry}
    (hhas : s.ctx.Has d entry) (hhealthy : s.Healthy entry.worker) (hwanted : s.Wanted d)
    (hannounced : ¬ announced s.bus d) : s'.Healthy entry.worker := by
  obtain ⟨p, hproc, hpc⟩ := hhealthy
  obtain ⟨p', hproc', hchange⟩ := proc_after h hproc
  refine ⟨p', hproc', ?_⟩
  have halive := hs.alive d entry p hhas hproc
  have hdb : p.db = d := hwf.db_eq hhas hproc
  have hentry : (s.ctx.entry? p.db).map WorkerEntry.worker = some entry.worker := by
    rw [hdb, hwf.entry?_eq hhas]
    rfl
  cases hchange with
  | same terminating hterminating hother => exact hpc
  | received he hlauncher hlauncher' hpc' => rfl
  | @moved pe r he hlock hstep hs' =>
    have hlooks : s.LooksSafe entry.worker → (s.catalog p.db).status = .exist := fun hlooks =>
      hlooks p hproc hentry (hdb ▸ hwanted) (hdb ▸ hannounced)
    rw [he] at hassumed hok
    cases hstep with
    -- A process that was not terminated does not give up before its loop.
    | abandon hpc' =>
      obtain ⟨q, hq, hterminating⟩ := hassumed.2 _ rfl
      obtain rfl := Option.some.inj (hproc.symm.trans hq)
      exact absurd (halive.symm.trans hterminating) (by simp)
    -- The two steps that look at the catalog: here the condition is used.
    | check hpc' =>
      show ((s.catalog p.db).status == .exist) = true
      rw [hlooks (hok.2 _ rfl)]
      rfl
    | reportExist hpc' => rfl
    -- A healthy process has seen that all is there, and reports that.
    | @reportOther status hpc' hstatus =>
      rw [hpc'] at hpc
      exact absurd (eq_of_beq (show (status == .exist) = true from hpc)) hstatus
    | reportRefused hpc' => exact absurd hassumed.1 (by simp [Event.refused])
    | fetch hpc' => rfl
    | connect hpc' => rfl
    | attach hpc' => rfl
    | fail hpc' =>
      obtain ⟨q, hq, hterminating⟩ := hassumed.2 _ rfl
      obtain rfl := Option.some.inj (hproc.symm.trans hq)
      exact absurd (halive.symm.trans hterminating) (by simp)
    | loop hpc' henabled hstep' => rfl
    | leave hpc' hcause =>
      rcases hcause with ⟨hstatus, env, rfl⟩ | hterminating
      · exact absurd (hlooks (hok.2 _ rfl)) hstatus
      · exact absurd (halive.symm.trans hterminating) (by simp)
    | exit hpc' => exact absurd hpc (by simp [hpc', Pc.healthy])
    | exitRefused hpc' => exact absurd hpc (by simp [hpc', Pc.healthy])

/-- A worker that a step starts is healthy, and it has an entry. -/
theorem served_of_fresh (hwf : s.WellFormed) {d : Oid} {db_name : String}
    (hpending : s'.ctx.pending_workers.lookup d = some ⟨db_name, d, s.ctx.counter⟩)
    (hprocs : s'.procs = s.procs ++ [fresh d]) :
    ∃ entry, s'.ctx.Has d entry ∧ s'.Healthy entry.worker := by
  refine ⟨_, Or.inl hpending, fresh d, ?_, rfl⟩
  rw [hprocs, hwf.counter]
  exact List.getElem?_concat_length

/-- When the launcher takes the last announcement of a database off the bus, the database is
served. -/
theorem served_of_announcement (hwf : s.WellFormed) {started : Option String}
    (hassumed : Event.refused (.recv started) = false) (hok : s.TakesSafe)
    (h : Transition s (.recv started) s') {item : Item} (hbus : s.bus = item :: s'.bus) {d : Oid}
    (hconfigures : item.msg.configures d) (hwanted : s.Wanted d)
    (hlast : ¬ announced s'.bus d) :
    ∃ entry, s'.ctx.Has d entry ∧ s'.Healthy entry.worker := by
  obtain ⟨config, hmsg⟩ := configures_iff.mp hconfigures
  have hd : item.msg.dbOid = d := by rw [hmsg]; rfl
  cases hentry : s.ctx.entry? d with
  | some entry =>
    -- The configuration comes to a healthy worker, which stays.
    have hhas := LauncherContext.has_of_entry? hentry
    have hhealthy : s.Healthy entry.worker := by
      refine (hok item (by rw [hbus]; rfl) (hd ▸ hwanted) ?_ entry (by rw [hd]; exact hentry)).1 ?_
      · rw [hbus, hd]
        exact hlast
      · rw [hd]
        exact hconfigures
    obtain ⟨p, hproc, hpc⟩ := hhealthy
    obtain ⟨p', hproc', hchange⟩ := proc_after h hproc
    refine ⟨entry, ?_, p', hproc', ?_⟩
    · rcases has_after hwf h hhas with hafter | ⟨_, item', -, hbus', hshut, -⟩
      · exact hafter
      · obtain ⟨rfl, -⟩ := List.cons.inj (hbus.symm.trans hbus')
        rw [hmsg] at hshut
        exact hshut.elim
    · cases hchange with
      | same terminating hterminating hother => exact hpc
      | received he => exact absurd he (by simp)
      | moved he => exact absurd he (by simp)
  | none =>
    -- Without an entry, the configuration starts a worker.
    obtain ⟨hworkers, hpending⟩ := (s.ctx.entry?_eq_none d).mp hentry
    cases h with
    | @recv item' rest started ctx effect hlauncher hbus' hhandling =>
      obtain ⟨rfl, -⟩ := List.cons.inj (hbus.symm.trans hbus')
      rw [hmsg] at hhandling
      cases hhandling with
      | shutdownRegistered hshut _ => exact hshut.elim
      | shutdownPending hshut _ _ => exact hshut.elim
      | forward hforward hworkers' => exact absurd (hworkers.symm.trans hworkers') (by simp)
      | start hstarted _ _ => exact served_of_fresh hwf (AList.lookup_insert _) rfl
      | ignore hshut hforward hregister hstart =>
        exact absurd hpending (hstart config rfl (Option.isNone_eq_false_iff.mp hassumed))
    | backend hstep => cases hstep

/-- A server that is there or being created is announced or served, or the launcher has still to
start its worker, after any step. -/
theorem served_step (hwf : s.WellFormed) (hs : s.Served) (hassumed : s.Assumed e)
    (hok : s.RunningSafe e) (h : Transition s e s') {d : Oid} (hwanted' : s'.Wanted d) :
    announced s'.bus d ∨ (∃ entry, s'.ctx.Has d entry ∧ s'.Healthy entry.worker) ∨
      ∃ oids, s'.launcher = .starting oids ∧ d ∈ oids := by
  -- What matters is the last announcement: while one is left on the bus, nothing else is needed.
  by_cases hannounced' : announced s'.bus d
  · exact Or.inl hannounced'
  right
  have hwanted : s.Wanted d := (wanted_of_step h hwanted').resolve_right hannounced'
  by_cases hannounced : announced s.bus d
  · rcases announced_step h hannounced with hafter | ⟨started, item, rfl, hbus, hconfigures⟩
    · exact absurd hafter hannounced'
    · exact Or.inl (served_of_announcement hwf hassumed.1 (hok.1 rfl) h hbus hconfigures hwanted
        hannounced')
  rcases (hs.served d hwanted).resolve_left hannounced with
    ⟨entry, hhas, hhealthy⟩ | ⟨oids, hlauncher, hd⟩
  · left
    have hafter := healthy_step hwf hs hassumed hok h hhas hhealthy hwanted hannounced
    rcases has_after hwf h hhas with hhas' | ⟨started, item, rfl, hbus, hshut, rfl⟩
    · exact ⟨entry, hhas', hafter⟩
    · -- A shutdown does not take a healthy worker.
      refine absurd hhealthy ((hok.1 rfl item (by rw [hbus]; rfl) hwanted ?_ entry ?_).2 hshut)
      · rw [hbus]
        exact hannounced'
      · exact hwf.entry?_eq hhas
  · cases h with
    -- The launcher's first list: the database is started now, or still in what is left of it.
    | @boot oid oids' db_name hlauncher' =>
      obtain rfl := LauncherPc.starting.inj (hlauncher.symm.trans hlauncher')
      rcases List.mem_cons.mp hd with rfl | hrest
      · exact Or.inl (served_of_fresh hwf (AList.lookup_insert _) rfl)
      · exact Or.inr ⟨oids', rfl, hrest⟩
    | bootFailed hlauncher' => exact absurd hassumed.1 (by simp [Event.refused])
    | booted hlauncher' =>
      obtain rfl := LauncherPc.starting.inj (hlauncher.symm.trans hlauncher')
      exact absurd hd (by simp)
    | proc hproc hlock hstep => exact Or.inr ⟨oids, hlauncher, hd⟩
    | backend hstep => exact Or.inr ⟨oids, hstep.frame.1.trans hlauncher, hd⟩
    | wake hother hgone => exact absurd (hlauncher.symm.trans hother) (by simp)
    | recv hother hbus hhandling => exact absurd (hlauncher.symm.trans hother) (by simp)
    | sent hother hproc hpc => exact absurd (hlauncher.symm.trans hother) (by simp)
    | sendFailed hother hproc hpc => exact absurd (hlauncher.symm.trans hother) (by simp)
    | unlock hother hbus => exact absurd (hlauncher.symm.trans hother) (by simp)

/-- A step that meets the assumptions and the condition keeps the invariant. -/
theorem Served.step (hwf : s.WellFormed) (hs : s.Served) (hassumed : s.Assumed e)
    (hok : s.RunningSafe e) (h : Transition s e s') : s'.Served where
  alive _ _ _ hhas hproc := alive_step hwf hs h hhas hproc
  pending _ _ _ hpending hproc hreported := pending_step hwf hs h hpending hproc hreported
  served _ hwanted := served_step hwf hs hassumed hok h hwanted

/-- The invariant holds when the launcher starts with a list of all the databases that have a
server. -/
theorem served_init {oids : List Oid} {catalog : Oid → Catalog}
    (hlisted : ∀ d, (catalog d).servers ≠ [] → d ∈ oids) : (init oids catalog).Served where
  alive d entry p hhas hproc := absurd hproc (by simp [init])
  pending d entry p hpending := absurd hpending (by simp [init, LauncherContext.default])
  served d hwanted := by
    right; right
    rcases hwanted with hservers | ⟨txn, hmem, -⟩
    · exact ⟨oids, rfl, hlisted d hservers⟩
    · exact absurd hmem (by simp [init])

/-- When all is quiet, a healthy worker is registered and in its loop. -/
theorem running_of_served (hs : s.Served) (hquiet : s.Quiescent) {d : Oid}
    (hservers : (s.catalog d).servers ≠ []) : ∃ entry p sub,
      s.ctx.workers.lookup d = some entry ∧ s.procs[entry.worker]? = some p ∧
      p.pc = .looping sub := by
  rcases hs.served d (Or.inl hservers) with hannounced | ⟨entry, hhas, p, hproc, hhealthy⟩ |
      ⟨oids, hlauncher, -⟩
  · rw [hquiet.bus] at hannounced
    exact absurd hannounced (by simp [announced])
  · have hsettled := hquiet.procs p (List.mem_of_getElem? hproc)
    obtain ⟨sub, hpc⟩ : ∃ sub, p.pc = .looping sub := by
      cases hpc : p.pc with
      | looping sub => exact ⟨sub, rfl⟩
      | exited attached => exact absurd hhealthy (by simp [hpc, Pc.healthy])
      | _ => exact absurd hsettled (by simp [hpc, Pc.settled])
    refine ⟨entry, p, sub, ?_, hproc, hpc⟩
    rcases hhas with hpending | hworkers
    -- A pending worker in its loop has its report on the bus, which is empty.
    · obtain ⟨item, hmem, -⟩ := hs.pending d entry p hpending hproc (by rw [hpc]; rfl)
      rw [hquiet.bus] at hmem
      exact absurd hmem (by simp)
    · exact hworkers
  · exact absurd (hquiet.launcher.symm.trans hlauncher) (by simp)

/-- In every run that meets the assumptions and the condition, and that starts with a list of all
the databases that have a server: when all is quiet, every database with the extension and a server
has a registered worker that is in its loop. The condition is enough and not exact: a worker that is
shut down in error may be started again by a later configuration. -/
theorem running_of_quiescent {oids : List Oid} (hoids : oids.Nodup) {catalog : Oid → Catalog}
    (hlisted : ∀ d, (catalog d).servers ≠ [] → d ∈ oids) {es : List Event}
    (hrun : Run.run step (init oids catalog) es = some s)
    (hassumed : Run.RunAll step Assumed (init oids catalog) es)
    (hok : Run.RunAll step RunningSafe (init oids catalog) es) (hquiet : s.Quiescent) {d : Oid}
    (_ : (s.catalog d).installed = true) (hservers : (s.catalog d).servers ≠ []) :
    ∃ entry p sub, s.ctx.workers.lookup d = some entry ∧ s.procs[entry.worker]? = some p ∧
      p.pc = .looping sub := by
  have hkeep : ∀ s e s', WellFormed s → Served s → (Assumed s e ∧ RunningSafe s e) →
      Transition s e s' → Served s' :=
    fun s e s' hwf hs hstep h => hs.step hwf hstep.1 hstep.2 h
  obtain ⟨-, hs⟩ := invariant_of_run hkeep hoids (served_init hlisted) (hassumed.and hok) hrun
  exact running_of_served hs hquiet hservers

/-- The worker of a database without a server leaves. When a server is created there, its
transaction commits before the launcher handles the configuration, and the new worker finds the
server. -/
theorem created_server_served :
    ∃ s, Run.run step (init [5] fun _ => ⟨true, [], ⟨[], []⟩⟩)
        [.boot (some "db"), .boot (some "db"), .proc 0 .check, .proc 0 (.report true),
          .proc 0 (.exit true), .wake, .recv (some "db"), .recv (some "db"), .unlock,
          .ddl 5 (.create "nats" []), .execute 0, .commit 0, .wake, .recv (some "db"), .unlock,
          .proc 1 .check, .proc 1 (.report true), .proc 1 .fetch, .proc 1 .connect,
          .proc 1 (.attach ⟨.master, true, ⟨none, none, id⟩, true⟩), .wake, .recv (some "db"),
          .unlock] = some s ∧
      ∃ entry p sub, s.ctx.workers.lookup 5 = some entry ∧ s.procs[entry.worker]? = some p ∧
        p.pc = .looping sub := by
  obtain ⟨s, hrun, hquiet, hinstalled, hservers⟩ : ∃ s,
      Run.run step (init [5] fun _ => ⟨true, [], ⟨[], []⟩⟩)
        [.boot (some "db"), .boot (some "db"), .proc 0 .check, .proc 0 (.report true),
          .proc 0 (.exit true), .wake, .recv (some "db"), .recv (some "db"), .unlock,
          .ddl 5 (.create "nats" []), .execute 0, .commit 0, .wake, .recv (some "db"), .unlock,
          .proc 1 .check, .proc 1 (.report true), .proc 1 .fetch, .proc 1 .connect,
          .proc 1 (.attach ⟨.master, true, ⟨none, none, id⟩, true⟩), .wake, .recv (some "db"),
          .unlock] = some s ∧
      s.Quiescent ∧ (s.catalog 5).installed = true ∧ (s.catalog 5).servers = [⟨"nats", []⟩] :=
    ⟨_, rfl, ⟨rfl, rfl, by decide, rfl⟩, rfl, rfl⟩
  refine ⟨s, hrun, ?_⟩
  exact running_of_quiescent (by decide : ([5] : List Oid).Nodup) (by simp) hrun (by decide)
    (by decide) hquiet hinstalled (by rw [hservers]; simp)

/-- The launcher handles the configuration of a new server before its transaction commits. The
worker that it starts finds no server and leaves, the transaction commits, and all is quiet: the
database has the extension and a server, and no worker. -/
theorem commit_after_check_unserved :
    ∃ s, Run.run step (init [5] fun _ => ⟨true, [], ⟨[], []⟩⟩)
        [.boot (some "db"), .boot (some "db"), .proc 0 .check, .proc 0 (.report true),
          .proc 0 (.exit true), .wake, .recv (some "db"), .recv (some "db"), .unlock,
          .ddl 5 (.create "nats" []), .execute 0, .wake, .recv (some "db"), .unlock,
          .proc 1 .check, .commit 0, .proc 1 (.report true), .proc 1 (.exit true), .wake,
          .recv (some "db"), .recv (some "db"), .unlock] = some s ∧
      s.Quiescent ∧ (s.catalog 5).installed = true ∧
      (s.catalog 5).servers = [⟨"nats", []⟩] ∧ s.ctx.workers.lookup 5 = none :=
  ⟨_, rfl, ⟨rfl, rfl, by decide, rfl⟩, rfl, rfl, rfl⟩

end System

end PgNats
