import PgNats.RingQueue.Basic
import PgNats.Lib.Fifo
import PgNats.System.Deadlock
import PgNats.System.Reports

/-!
# What the launcher learns of an exit

A subscriber process tells the launcher of its end by the last thing that it does, and the report of
its status may have done so before. Both are sent once, and the bus may be full. Before it knows the
name of its database, a process ends without any report.

`exits_learned_iff` says when the launcher learns of every exit. Whenever a process ends without a
report, its entry must be gone, or a message that takes it away must be on the bus. Then, in every
state of the run, this is so for all processes that have ended. Once the bus is drained, none of
them has an entry, and a configuration for the database starts a new worker.
`dead_worker_registered` is a run in which the bus is full when a registered worker ends.
-/

namespace PgNats.System

/-- The launcher knows that this process has ended, or will once it has handled what is on the bus:
the entry of the database is not that of the process, or a message shuts it down. -/
def ShutDownDue (s : System) (g : ℕ) : Prop :=
  ∀ p ∈ s.procs[g]?, (∀ entry ∈ s.ctx.entry? p.db, entry.worker ≠ g) ∨
    ∃ item ∈ s.bus, item.msg.ShutsDown ∧ item.msg.dbOid = p.db

instance (s : System) (g : ℕ) : Decidable (s.ShutDownDue g) :=
  match h : s.procs[g]? with
  | none => .isTrue (by simp [ShutDownDue, h])
  | some p =>
    decidable_of_iff ((∀ entry ∈ s.ctx.entry? p.db, entry.worker ≠ g) ∨
      ∃ item ∈ s.bus, item.msg.ShutsDown ∧ item.msg.dbOid = p.db) (by simp [ShutDownDue, h])

/-- The condition on a step. When a process ends without a report, the launcher knows that it has
ended, or will once it has handled what is on the bus. -/
def ExitSafe (s : System) : Event → Prop
  | .proc g .abandon => s.ShutDownDue g
  | .proc g (.exit false) => s.ShutDownDue g
  | _ => True

instance (s : System) : ∀ e, Decidable (s.ExitSafe e) := Event.Decisions.decidable {
  proc := fun g => ProcEvent.Decisions.decidable {
    abandon := inferInstanceAs (Decidable (s.ShutDownDue g))
    exit
      | true => .isTrue trivial
      | false => inferInstanceAs (Decidable (s.ShutDownDue g)) } }

/-- The launcher learns of every exit. -/
structure ExitsLearned (s : System) : Prop where
  /-- It knows of each process that has ended, or will once it has handled what is on the bus. -/
  due : ∀ g, s.Gone g → s.ShutDownDue g
  /-- Once the bus is drained, no entry is that of a process that has ended. -/
  drained : s.bus = [] → ∀ g, s.Gone g → ∀ d entry, s.ctx.Has d entry → entry.worker ≠ g
  /-- A configuration that comes when nothing more on the bus is about to shut the database down is
  not sent to a process that has ended. If the database has no other worker, it starts one. -/
  newConfig : ∀ d config sender rest, s.bus = ⟨.newConfig d config, sender⟩ :: rest →
    (∀ item ∈ rest, item.msg.ShutsDown → item.msg.dbOid ≠ d) →
    ∀ db_name s', step s (.recv (some db_name)) = some s' →
      (∀ g msg, s'.launcher = .sending g msg → ¬ s.Gone g) ∧
      ((∀ entry, s.ctx.Has d entry → s.Gone entry.worker) →
        Starts s (.recv (some db_name)) s' d db_name)

variable {s s' : System} {e : Event}

/-- A process that has ended has no entry, unless a message on the bus shuts its database down. -/
theorem ShutDownDue.not_has (hwf : s.WellFormed) {d : Oid} {entry : WorkerEntry}
    (hdue : s.ShutDownDue entry.worker)
    (hquiet : ∀ item ∈ s.bus, item.msg.ShutsDown → item.msg.dbOid ≠ d) : ¬ s.ctx.Has d entry := by
  intro hhas
  obtain ⟨p, hproc, rfl⟩ := (hwf.entries d entry hhas).2
  rcases hdue p hproc with hnone | ⟨item, hmem, hshut, hd⟩
  · exact hnone entry (hwf.entry?_eq hhas) rfl
  · exact hquiet item hmem hshut hd

/-- What the launcher knows of a process it goes on knowing. -/
theorem ShutDownDue.step (hwf : s.WellFormed) (h : Transition s e s') {g : ℕ} {p : Proc}
    (hproc : s.procs[g]? = some p) (hdue : s.ShutDownDue g) : s'.ShutDownDue g := by
  intro p' hproc'
  have hdb : p'.db = p.db := by
    have hbefore : s.IsProc g p.db := ⟨p, hproc, rfl⟩
    exact IsProc.unique ⟨p', hproc', rfl⟩ (hbefore.step h)
  by_cases hentry : ∀ entry ∈ s'.ctx.entry? p'.db, entry.worker ≠ g
  · exact Or.inl hentry
  · right
    push Not at hentry
    obtain ⟨entry, hsome, rfl⟩ := hentry
    have hhas' : s'.ctx.Has p.db entry := hdb ▸ LauncherContext.has_of_entry? hsome
    rcases has_of_step hwf h hhas' with hhas | ⟨db_name, hstart, rfl⟩
    -- The entry was there before, so it is a message that is going to take it away.
    · rcases hdue p hproc with hnone | ⟨item, hmem, hshut, hd⟩
      · exact absurd rfl (hnone entry (hwf.entry?_eq hhas))
      · exact ⟨item, shutdown_stays hwf h (hd ▸ hhas') hmem hshut, hshut, hd.trans hdb.symm⟩
    -- The number of a new worker is that of no process before.
    · exact absurd (List.getElem?_eq_some_iff.mp hproc).1 (lt_irrefl _)

/-- A step that meets the condition keeps the launcher's knowledge. -/
theorem due_step (hwf : s.WellFormed) (hs : ∀ g, s.Gone g → s.ShutDownDue g) (hok : s.ExitSafe e)
    (h : Transition s e s') (g : ℕ) (hgone : s'.Gone g) : s'.ShutDownDue g := by
  obtain ⟨p', attached, hproc', hpc'⟩ := hgone
  rcases proc_before h hproc' with ⟨p, hproc, hchange⟩ | ⟨d, db_name, -, -, rfl⟩
  · cases hchange with
    | same terminating hterminating hother =>
      exact (hs g ⟨p, attached, hproc, hpc'⟩).step hwf h hproc
    | received he hlauncher hlauncher' hpc => exact absurd hpc' (by simp)
    | moved he hlock hstep hs' =>
      subst he
      cases hstep with
      | abandon hpc => exact ShutDownDue.step hwf h hproc hok
      | exitRefused hpc => exact ShutDownDue.step hwf h hproc hok
      | @exit attached' reason hpc =>
        intro q hq
        obtain rfl := Option.some.inj (hproc'.symm.trans hq)
        refine Or.inr ⟨⟨.subscriberExit p.db reason, some g⟩, ?_, trivial, rfl⟩
        rw [hs']
        exact List.mem_append_right _ List.mem_cons_self
      | _ => exact absurd hpc' (by simp)
  · exact absurd hpc' (by simp [fresh])

/-- When a process ends without a report and the launcher neither knows it nor will once it has
handled what is on the bus, this is so after the step too. -/
theorem not_due_step (hbad : ¬ s.ExitSafe e) (h : Transition s e s') :
    ∃ g, s'.Gone g ∧ ¬ s'.ShutDownDue g := by
  -- Only the two silent ends can break the condition.
  have hsilent : ∃ g, (e = .proc g .abandon ∨ e = .proc g (.exit false)) ∧ ¬ s.ShutDownDue g := by
    unfold ExitSafe at hbad
    split at hbad
    · exact ⟨_, Or.inl rfl, hbad⟩
    · exact ⟨_, Or.inr rfl, hbad⟩
    · exact absurd trivial hbad
  obtain ⟨g, he, hdue⟩ := hsilent
  refine ⟨g, ?_⟩
  cases h with
  | @proc g' pe p r hproc hlock hstep =>
    have hself : (s.advance g' p r).procs[g']? = some { p with pc := r.pc } :=
      List.getElem?_set_self (List.getElem?_eq_some_iff.mp hproc).1
    have hboth : g' = g ∧ r.posted = none ∧ ∃ attached, r.pc = .exited attached := by
      rcases he with he | he
      · obtain ⟨rfl, rfl⟩ := Event.proc.inj he
        cases hstep with
        | abandon hpc => exact ⟨rfl, rfl, _, rfl⟩
      · obtain ⟨rfl, rfl⟩ := Event.proc.inj he
        cases hstep with
        | exitRefused hpc => exact ⟨rfl, rfl, _, rfl⟩
    obtain ⟨rfl, hposted, attached, hpc⟩ := hboth
    refine ⟨⟨_, attached, hself, hpc⟩, fun hdue' => hdue fun q hq => ?_⟩
    obtain rfl := Option.some.inj (hproc.symm.trans hq)
    rcases hdue' _ hself with hnone | ⟨item, hmem, hshut⟩
    · exact Or.inl hnone
    · refine Or.inr ⟨item, ?_, hshut⟩
      unfold advance at hmem
      rw [hposted] at hmem
      simpa using hmem
  | backend hstep =>
    rcases he with rfl | rfl <;> cases hstep
  | _ => rcases he with he | he <;> exact absurd he (by simp)

/-- Knowledge of the exits is what the launcher's handling of configurations needs. -/
theorem exitsLearned_of_due (hwf : s.WellFormed) (hs : ∀ g, s.Gone g → s.ShutDownDue g) :
    s.ExitsLearned where
  due := hs
  drained := by
    rintro hbus g hgone d entry hhas rfl
    refine (hs _ hgone).not_has hwf ?_ hhas
    rw [hbus]
    intro item hmem
    exact absurd hmem (by simp)
  newConfig := by
    intro d config sender rest hbus hrest db_name s' hstep
    have hquiet : ∀ item ∈ s.bus, item.msg.ShutsDown → item.msg.dbOid ≠ d := by
      rw [hbus]
      intro item hmem hshut
      rcases List.mem_cons.mp hmem with rfl | hmem
      · exact hshut.elim
      · exact hrest item hmem hshut
    have hlive : ∀ entry, s.ctx.Has d entry → ¬ s.Gone entry.worker := fun entry hhas hgone =>
      (hs _ hgone).not_has hwf hquiet hhas
    cases transition_of_step hstep with
    | recv hlauncher hbus' hhandling =>
      obtain ⟨rfl, rfl⟩ := List.cons.inj (hbus.symm.trans hbus')
      cases hhandling with
      | shutdownRegistered hmsg hworkers => exact hmsg.elim
      | shutdownPending hmsg hworkers hpending => exact hmsg.elim
      | @forward _ m entry hmsg hworkers =>
        refine ⟨fun g msg hsending => ?_, fun hgone => ?_⟩
        · obtain ⟨rfl, -⟩ := LauncherPc.sending.inj hsending
          exact hlive entry (Or.inr hworkers)
        · exact absurd (hgone entry (Or.inr hworkers)) (hlive entry (Or.inr hworkers))
      | start hstarted hworkers hpending =>
        obtain rfl := Option.some.inj hstarted
        have hnone := (LauncherContext.entry?_eq_none _ _).mpr ⟨hworkers, hpending⟩
        refine ⟨fun g msg hsending => ?_, fun _ => ⟨rfl, rfl, Or.inr ?_⟩⟩
        · exact absurd (hlauncher.symm.trans hsending) (by simp)
        · exact ⟨rfl, hlauncher, hlauncher, hnone, _, _, hbus⟩
      | ignore hshut hforward hregister hstart =>
        refine ⟨fun g msg hsending => ?_, fun hgone => ?_⟩
        · exact absurd (hlauncher.symm.trans hsending) (by simp)
        · have hpending := hstart config rfl rfl
          obtain ⟨entry, hentry⟩ := Option.ne_none_iff_exists'.mp hpending
          exact absurd (hgone entry (Or.inl hentry)) (hlive entry (Or.inl hentry))
    | backend hstep => cases hstep

/-- In a run, every process that ends without a report does so when the launcher knows that it has
ended, or will once it has handled what is on the bus, exactly when the launcher learns of every
exit in every state of the run. -/
theorem exits_learned_iff {oids : List Oid} (hoids : oids.Nodup) (catalog : Oid → Catalog)
    {es : List Event} (hrun : Run.run step (init oids catalog) es = some s) :
    Run.RunAll step ExitSafe (init oids catalog) es ↔
      ∀ pre, pre <+: es → ∀ t, Run.run step (init oids catalog) pre = some t → t.ExitsLearned := by
  let inv : System → Prop := fun s => s.WellFormed ∧ ∀ g, s.Gone g → s.ShutDownDue g
  have hinit : inv (init oids catalog) := by
    refine ⟨wellFormed_init hoids catalog, ?_⟩
    rintro g ⟨p, attached, hproc, -⟩
    exact absurd hproc (by simp [init])
  have hkeep : ∀ s e s', inv s → s.ExitSafe e → step s e = some s' → inv s' := by
    rintro s e s' ⟨hwf, hs⟩ hok hstep
    have h := transition_of_step hstep
    exact ⟨wellFormed_step hwf h, due_step hwf hs hok h⟩
  have hbreak : ∀ s e s', inv s → ¬ s.ExitSafe e → step s e = some s' → ¬ s'.ExitsLearned := by
    intro s e s' _ hbad hstep hlearned
    obtain ⟨g, hgone, hdue⟩ := not_due_step hbad (transition_of_step hstep)
    exact hdue (hlearned.due g hgone)
  exact Run.runAll_iff_forall_prefix (fun s hs => exitsLearned_of_due hs.1 hs.2) hkeep hbreak hinit
    hrun

/-- A worker finds no server and reports that, and when it ends the bus is full: the launcher learns
of the end from the first report. -/
theorem first_report_suffices :
    ∃ s, Run.run step (init [5] fun _ => unconfigured)
        [.boot (some "db"), .boot none, .proc 0 .check, .proc 0 (.report true),
          .proc 0 (.exit false), .wake, .recv none, .unlock] = some s ∧
      s.bus = [] ∧ s.Gone 0 ∧ s.ExitsLearned := by
  obtain ⟨s, hrun, hbus, p, hproc, hpc⟩ : ∃ s, Run.run step (init [5] fun _ => unconfigured)
      [.boot (some "db"), .boot none, .proc 0 .check, .proc 0 (.report true),
        .proc 0 (.exit false), .wake, .recv none, .unlock] = some s ∧
      s.bus = [] ∧ ∃ p, s.procs[0]? = some p ∧ p.pc = .exited false :=
    ⟨_, rfl, rfl, _, rfl, rfl⟩
  have hall := (exits_learned_iff (by decide : ([5] : List Oid).Nodup) (fun _ => unconfigured)
    hrun).mp (by decide)
  exact ⟨s, hrun, hbus, ⟨p, false, hproc, hpc⟩, hall _ (List.prefix_refl _) s hrun⟩

/-- `MESSAGE_BUS_SIZE`. -/
def MESSAGE_BUS_SIZE : ℕ := 0x10000

/-- The bytes of the messages on the bus. -/
def bytes (encode : LauncherMessage → List UInt8) (s : System) : List (List UInt8) :=
  s.bus.map fun item => encode item.msg

/-- Two messages of these lengths fill the bus. -/
theorem cost_of_lengths {datas : List (List UInt8)} (h : datas.map List.length = [3, 65517]) :
    Fifo.cost HEADER_SIZE datas = MESSAGE_BUS_SIZE := by
  obtain ⟨status, rest, rfl, hstatus, hrest⟩ := List.map_eq_cons_iff.mp h
  obtain ⟨request, rest, rfl, hrequest, hnil⟩ := List.map_eq_cons_iff.mp hrest
  obtain rfl := List.map_eq_nil_iff.mp hnil
  rw [Fifo.cost_cons, Fifo.cost_cons, Fifo.cost_nil, hstatus, hrequest]
  rfl

/-- A subject of 65510 bytes. -/
def filling : String := String.ofList (List.replicate 65510 'a')

/-- A worker is registered, its connection is refused, and it ends without a report while a request
of another database is on the bus. Once the bus is drained, the worker is still registered, and the
next configuration is sent to it. -/
theorem refused_exit (subject : String) :
    ∃ s t u, Run.run step (init [5] fun _ => configured)
        [.boot (some "db"), .boot none, .proc 0 .check, .proc 0 (.report true), .proc 0 .fetch,
          .proc 0 (.fail "connection refused"), .request true 7 subject "f"] = some s ∧
      s.bus = [⟨.dbExtensionStatus 5 .exist, some 0⟩, ⟨.subscribe 7 subject "f", none⟩] ∧
      Run.run step s [.proc 0 (.exit false), .wake, .recv none, .recv none, .unlock] = some t ∧
      t.bus = [] ∧ t.Gone 0 ∧ t.ctx.workers.lookup 5 = some ⟨"db", 5, 0⟩ ∧
      Run.run step t [.ddl 5 (.alter "nats" []), .wake, .recv (some "db")] = some u ∧
      ∃ config, u.launcher = .sending 0 (.newConfig config) :=
  ⟨_, _, _, rfl, rfl, rfl, rfl, ⟨_, _, rfl, rfl⟩, rfl, rfl, _, rfl⟩

/-- The bus is full when a registered worker ends, and has no room for its report: `postcard` makes
3 bytes of the status and 65517 of the request. The launcher never learns of the end. -/
theorem dead_worker_registered :
    ∃ s t u, Run.run step (init [5] fun _ => configured)
        [.boot (some "db"), .boot none, .proc 0 .check, .proc 0 (.report true), .proc 0 .fetch,
          .proc 0 (.fail "connection refused"), .request true 7 filling "f"] = some s ∧
      s.bus = [⟨.dbExtensionStatus 5 .exist, some 0⟩, ⟨.subscribe 7 filling "f", none⟩] ∧
      (∀ encode : LauncherMessage → List UInt8, (s.bytes encode).map List.length = [3, 65517] →
        Fifo.cost HEADER_SIZE (s.bytes encode) = MESSAGE_BUS_SIZE ∧
          ¬ Fifo.Fits HEADER_SIZE MESSAGE_BUS_SIZE (s.bytes encode)
            (encode (.subscriberExit 5 (.error "connection refused")))) ∧
      Run.run step s [.proc 0 (.exit false), .wake, .recv none, .recv none, .unlock] = some t ∧
      t.bus = [] ∧ t.Gone 0 ∧ t.ctx.workers.lookup 5 = some ⟨"db", 5, 0⟩ ∧ ¬ t.ExitsLearned ∧
      Run.run step t [.ddl 5 (.alter "nats" []), .wake, .recv (some "db")] = some u ∧
      ∃ config, u.launcher = .sending 0 (.newConfig config) := by
  obtain ⟨s, t, u, hrun, hbus, hdrain, hempty, hgone, hworkers, hnext, hsending⟩ :=
    refused_exit filling
  have hfull : ∀ datas : List (List UInt8), datas.map List.length = [3, 65517] →
      ∀ msg, ¬ Fifo.Fits HEADER_SIZE MESSAGE_BUS_SIZE datas msg := by
    intro datas hlengths msg
    have hheader : HEADER_SIZE = 8 := rfl
    unfold Fifo.Fits
    rw [cost_of_lengths hlengths]
    omega
  have hunlearned : ¬ t.ExitsLearned := fun hlearned =>
    hlearned.drained hempty 0 hgone 5 ⟨"db", 5, 0⟩ (Or.inr hworkers) rfl
  exact ⟨s, t, u, hrun, hbus, fun encode h => ⟨cost_of_lengths h, hfull _ h _⟩, hdrain, hempty,
    hgone, hworkers, hunlearned, hnext, hsending⟩

end PgNats.System
