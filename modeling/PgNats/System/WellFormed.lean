import PgNats.Lib.Run
import PgNats.System.Views

/-!
# What holds in every state of the system

`WellFormed` collects what every reachable state satisfies: an entry of the launcher belongs to a
process of its database, a message on the bus comes from whom it says, no database is pending and
registered, and the databases that the launcher still has to start are untouched.
`wellFormed_of_run` is the theorem, for a list of different databases, and `invariant_of_run` is the
induction by which the following modules prove what else holds along a run.
-/

namespace PgNats.System

variable {s s' : System} {e : Event}

/-- What every reachable state satisfies. -/
structure WellFormed (s : System) : Prop where
  /-- The launcher counts its starts. -/
  counter : s.ctx.counter = s.procs.length
  /-- An entry is about a process of its database. -/
  entries : ∀ d entry, s.ctx.Has d entry → entry.oid = d ∧ s.IsProc entry.worker d
  /-- And so is an entry of a terminated worker. -/
  terminated : ∀ d entry, s.ctx.terminated_workers.lookup d = some entry →
    s.IsProc entry.worker d
  /-- No database is both pending and registered. -/
  disjoint : ∀ d entry, s.ctx.pending_workers.lookup d = some entry →
    s.ctx.workers.lookup d = none
  /-- A message without a sender is a backend's. -/
  backends : ∀ item ∈ s.bus, item.sender = none → item.msg.FromBackend
  /-- A message with a sender is the report of a process about its database. -/
  reports : ∀ item ∈ s.bus, ∀ g, item.sender = some g →
    item.msg.IsReport ∧ s.IsProc g item.msg.dbOid
  /-- The databases that the launcher has still to start are different and untouched, and no worker
  is terminated before all are started. -/
  booting : ∀ oids, s.launcher = .starting oids → oids.Nodup ∧ s.ctx.terminated_workers = ∅ ∧
    ∀ d ∈ oids, (∀ entry, ¬ s.ctx.Has d entry) ∧ ∀ g, ¬ s.IsProc g d
  /-- A worker to which the launcher is sending is registered. -/
  sending : ∀ g msg, s.launcher = .sending g msg →
    ∃ d entry, s.ctx.workers.lookup d = some entry ∧ entry.worker = g

/-- The system is well formed when the launcher starts. -/
theorem wellFormed_init {oids : List Oid} (hoids : oids.Nodup) (catalog : Oid → Catalog) :
    (init oids catalog).WellFormed where
  counter := rfl
  entries d entry hhas := by
    rcases hhas with hhas | hhas <;>
      exact absurd hhas (by simp [init, LauncherContext.default])
  terminated d entry h := absurd h (by simp [init, LauncherContext.default])
  disjoint d entry h := absurd h (by simp [init, LauncherContext.default])
  backends item hmem := absurd hmem (by simp [init])
  reports item hmem := absurd hmem (by simp [init])
  booting oids' hlauncher := by
    obtain rfl := LauncherPc.starting.inj hlauncher
    refine ⟨hoids, rfl, fun d hd => ⟨?_, ?_⟩⟩
    · rintro entry (h | h) <;> exact absurd h (by simp [init, LauncherContext.default])
    · rintro g ⟨p, hproc, -⟩
      exact absurd hproc (by simp [init])
  sending g msg hlauncher := absurd hlauncher (by simp [init])

/-- An entry was there before the step, or it is that of the worker started. -/
theorem has_of_step (hs : s.WellFormed) (h : Transition s e s') {d : Oid} {entry : WorkerEntry}
    (hhas : s'.ctx.Has d entry) : s.ctx.Has d entry ∨
      ∃ db_name, Starts s e s' d db_name ∧ entry = ⟨db_name, d, s.procs.length⟩ := by
  rcases starts_or_same h with ⟨d', db_name, hstart⟩ | ⟨-, -, hsame⟩
  · rcases hstart.has hhas with hold | ⟨rfl, rfl⟩
    · exact Or.inl hold
    · exact Or.inr ⟨db_name, hstart, by rw [hs.counter]⟩
  · exact Or.inl (hsame d entry hhas)

/-- A pending entry was pending before the step, or it is that of the worker started. -/
theorem pending_of_step (hs : s.WellFormed) (h : Transition s e s') {d : Oid} {entry : WorkerEntry}
    (hpending : s'.ctx.pending_workers.lookup d = some entry) :
    s.ctx.pending_workers.lookup d = some entry ∨ entry.worker = s.procs.length := by
  cases h with
  | @boot oid oids db_name hlauncher =>
    rcases HashMap.lookup_insert_eq_some hpending with ⟨-, rfl⟩ | hold
    · exact Or.inr hs.counter
    · exact Or.inl hold
  | @recv item rest started ctx effect hlauncher hbus hhandling =>
    obtain ⟨msg, sender⟩ := item
    rcases hhandling.pending hpending with hpending | rfl
    · exact Or.inl hpending
    · right
      cases hhandling
      exact hs.counter
  | backend hstep =>
    obtain ⟨-, hctx, -⟩ := hstep.frame
    rw [hctx] at hpending
    exact Or.inl hpending
  | _ => exact Or.inl hpending

/-- A process is of one database. -/
theorem IsProc.unique {g : ℕ} {d d' : Oid} (h : s.IsProc g d) (h' : s.IsProc g d') : d = d' := by
  rw [isProc_iff] at h h'
  exact Option.some.inj (h.symm.trans h')

/-- A worker is started only for a database without an entry. -/
theorem Starts.not_has {d : Oid} {db_name : String} (hs : s.WellFormed)
    (hstart : Starts s e s' d db_name) (entry : WorkerEntry) : ¬ s.ctx.Has d entry := by
  rcases hstart.cause with ⟨-, -, oids, hlauncher, -⟩ | ⟨-, -, -, hnone, -⟩
  · obtain ⟨-, -, huntouched⟩ := hs.booting _ hlauncher
    exact (huntouched d List.mem_cons_self).1 entry
  · exact LauncherContext.not_has_of_entry? hnone entry

/-- A terminated worker was terminated before the step, or the step took its entry away. -/
theorem terminated_of_step (hs : s.WellFormed) (h : Transition s e s') {d : Oid}
    {entry : WorkerEntry} (hentry : s'.ctx.terminated_workers.lookup d = some entry) :
    s.ctx.terminated_workers.lookup d = some entry ∨
      (s.ctx.Has d entry ∧ ∀ entry', ¬ s'.ctx.Has d entry') := by
  cases h with
  | wake hlauncher hgone =>
    exact absurd hentry (by simp [LauncherContext.processTerminatedWorkers])
  | recv hlauncher hbus hhandling =>
    rcases hhandling.terminated hentry with hold | ⟨hshut, hhas, hoid⟩
    · exact Or.inl hold
    · right
      obtain rfl := (hs.entries _ _ hhas).1.symm.trans hoid
      exact ⟨hhas, hhandling.not_has hshut (hs.disjoint _)⟩
  | backend hstep =>
    obtain ⟨-, hctx, -⟩ := hstep.frame
    rw [hctx] at hentry
    exact Or.inl hentry
  | _ => exact Or.inl hentry

/-- A registered worker is not pending, after any step. -/
theorem disjoint_step (hs : s.WellFormed) (h : Transition s e s') {d : Oid} {entry : WorkerEntry}
    (hpending : s'.ctx.pending_workers.lookup d = some entry) :
    s'.ctx.workers.lookup d = none := by
  cases h with
  | @boot oid oids db_name hlauncher =>
    obtain ⟨-, -, huntouched⟩ := hs.booting _ hlauncher
    rcases eq_or_ne d oid with rfl | hne
    · refine Option.eq_none_iff_forall_ne_some.mpr fun entry' hentry' => ?_
      exact (huntouched d List.mem_cons_self).1 entry' (Or.inr hentry')
    · exact hs.disjoint d entry ((AList.lookup_insert_ne hne).symm.trans hpending)
  | @recv item rest started ctx effect hlauncher hbus hhandling =>
    obtain ⟨msg, sender⟩ := item
    rcases eq_or_ne d msg.dbOid with rfl | hne
    · cases hhandling with
      | register hpending' =>
        exact absurd hpending (by simp [perform, taking, LauncherMessage.dbOid])
      | shutdownRegistered hmsg hworkers => exact AList.lookup_erase _ _
      | shutdownPending hmsg hworkers hpending' => exact hworkers
      | forward hmsg hworkers => exact hs.disjoint _ _ hpending
      | start hstarted hworkers hpending' => exact hworkers
      | ignore hshut hforward hregister hstart => exact hs.disjoint _ _ hpending
    · obtain ⟨hsame, hsame'⟩ := hhandling.lookup_of_ne hne
      exact hsame'.trans (hs.disjoint d entry (hsame.symm.trans hpending))
  | backend hstep =>
    obtain ⟨-, hctx, -⟩ := hstep.frame
    rw [hctx] at hpending ⊢
    exact hs.disjoint d entry hpending
  | _ => exact hs.disjoint d entry hpending

/-- While the launcher starts its list, a step leaves its context and the databases of the processes
as they are, or deals with the next database of the list. -/
theorem starting_of_step (h : Transition s e s') {oids : List Oid}
    (hlauncher' : s'.launcher = .starting oids) :
    (s'.ctx = s.ctx ∧ s'.dbs = s.dbs ∧
      (s.launcher = .starting oids ∨ ∃ d, s.launcher = .starting (d :: oids))) ∨
    ∃ d db_name, s.launcher = .starting (d :: oids) ∧ Starts s e s' d db_name := by
  cases h with
  | boot hlauncher =>
    obtain rfl := LauncherPc.starting.inj hlauncher'
    exact Or.inr ⟨_, _, hlauncher, rfl, rfl, Or.inl ⟨rfl, rfl, _, hlauncher, rfl⟩⟩
  | bootFailed hlauncher =>
    obtain rfl := LauncherPc.starting.inj hlauncher'
    exact Or.inl ⟨rfl, rfl, Or.inr ⟨_, hlauncher⟩⟩
  | @recv item rest started ctx effect hlauncher hbus hhandling =>
    obtain ⟨msg, sender⟩ := item
    cases hhandling <;> exact absurd hlauncher' (by simp [perform, taking, hlauncher])
  | proc hproc hlock hstep => exact Or.inl ⟨rfl, map_db_set hproc rfl, Or.inl hlauncher'⟩
  | backend hstep =>
    obtain ⟨hlauncher, hctx, hprocs, -⟩ := hstep.frame
    exact Or.inl ⟨hctx, congrArg (List.map Proc.db) hprocs, Or.inl (hlauncher ▸ hlauncher')⟩
  | _ => exact absurd hlauncher' (by simp)

/-- Every step keeps the system well formed. -/
theorem wellFormed_step (hs : s.WellFormed) (h : Transition s e s') : s'.WellFormed where
  counter := by
    rcases starts_or_same h with ⟨d, db_name, hstart⟩ | ⟨hdbs, hcounter, -⟩
    · rw [hstart.ctx, hstart.procs, List.length_append, ← hs.counter]
      rfl
    · have hlength := congrArg List.length hdbs
      unfold dbs at hlength
      rw [List.length_map, List.length_map] at hlength
      rw [hcounter, hs.counter, hlength]
  entries d entry hhas := by
    rcases has_of_step hs h hhas with hhas | ⟨db_name, hstart, rfl⟩
    · obtain ⟨hoid, hproc⟩ := hs.entries d entry hhas
      exact ⟨hoid, hproc.step h⟩
    · refine ⟨rfl, fresh d, ?_, rfl⟩
      rw [hstart.procs]
      exact List.getElem?_concat_length
  terminated d entry hentry := by
    rcases terminated_of_step hs h hentry with hentry | ⟨hhas, -⟩
    · exact (hs.terminated d entry hentry).step h
    · exact (hs.entries d entry hhas).2.step h
  disjoint d entry hpending := disjoint_step hs h hpending
  backends item hmem hsender := by
    rcases mem_bus_of_step h hmem with hmem | ⟨-, hbackend⟩ | ⟨g, p, hsome, -⟩
    · exact hs.backends item hmem hsender
    · exact hbackend
    · exact absurd (hsender.symm.trans hsome) (by simp)
  reports item hmem g hsender := by
    rcases mem_bus_of_step h hmem with hmem | ⟨hnone, -⟩ | ⟨g', p, hsome, hproc, hreport, hdb, -⟩
    · exact ⟨(hs.reports item hmem g hsender).1, (hs.reports item hmem g hsender).2.step h⟩
    · exact absurd (hnone.symm.trans hsender) (by simp)
    · obtain rfl := Option.some.inj (hsome.symm.trans hsender)
      have hisProc : s.IsProc g' item.msg.dbOid := ⟨p, hproc, hdb.symm⟩
      exact ⟨hreport, hisProc.step h⟩
  booting oids hlauncher := by
    rcases starting_of_step h hlauncher with ⟨hctx, hdbs, hbefore⟩ | ⟨d, db_name, hbefore, hstart⟩
    · have hkeep : ∀ d, ((∀ entry, ¬ s.ctx.Has d entry) ∧ ∀ g, ¬ s.IsProc g d) →
          (∀ entry, ¬ s'.ctx.Has d entry) ∧ ∀ g, ¬ s'.IsProc g d := by
        rintro d ⟨hhas, hisProc⟩
        refine ⟨hctx ▸ hhas, fun g hg => hisProc g ?_⟩
        rw [isProc_iff] at hg ⊢
        rwa [hdbs] at hg
      rcases hbefore with hbefore | ⟨d, hbefore⟩
      · obtain ⟨hnodup, hempty, huntouched⟩ := hs.booting _ hbefore
        exact ⟨hnodup, hctx ▸ hempty, fun d hd => hkeep d (huntouched d hd)⟩
      · obtain ⟨hnodup, hempty, huntouched⟩ := hs.booting _ hbefore
        refine ⟨hnodup.of_cons, hctx ▸ hempty, fun d' hd' => hkeep d' ?_⟩
        exact huntouched d' (List.mem_cons_of_mem _ hd')
    · obtain ⟨hnodup, hempty, huntouched⟩ := hs.booting _ hbefore
      refine ⟨hnodup.of_cons, by rw [hstart.ctx]; exact hempty, fun d' hd' => ⟨?_, ?_⟩⟩
      · -- The new entry is that of another database.
        have hne : d' ≠ d := fun heq => (List.nodup_cons.mp hnodup).1 (heq ▸ hd')
        obtain ⟨hhas, -⟩ := huntouched d' (List.mem_cons_of_mem _ hd')
        rintro entry hentry
        rcases hstart.has hentry with hold | ⟨heq, -⟩
        · exact hhas entry hold
        · exact hne heq
      · have hne : d' ≠ d := fun heq => (List.nodup_cons.mp hnodup).1 (heq ▸ hd')
        obtain ⟨-, hisProc⟩ := huntouched d' (List.mem_cons_of_mem _ hd')
        intro g hg
        rcases isProc_of_step h hg with hold | ⟨rfl, db_name', hstart'⟩
        · exact hisProc g hold
        · have heq := List.append_cancel_left (hstart.procs.symm.trans hstart'.procs)
          exact hne (congrArg Proc.db (List.singleton_inj.mp heq)).symm
  sending g msg hlauncher := by
    rcases sending_of_step h hlauncher with ⟨hbefore, hctx, -⟩ |
        ⟨started, item, entry, -, -, hctx, -, hworkers, hworker⟩
    · rw [hctx]
      exact hs.sending g msg hbefore
    · rw [hctx]
      exact ⟨_, entry, hworkers, hworker⟩

/-- The process of an entry is one of its database. -/
theorem WellFormed.db_eq (hs : s.WellFormed) {d : Oid} {entry : WorkerEntry} {p : Proc}
    (hhas : s.ctx.Has d entry) (hproc : s.procs[entry.worker]? = some p) : p.db = d :=
  IsProc.unique ⟨p, hproc, rfl⟩ (hs.entries d entry hhas).2

/-- Entries with one worker are of one database. -/
theorem WellFormed.worker_inj (hs : s.WellFormed) {d d' : Oid} {entry entry' : WorkerEntry}
    (hhas : s.ctx.Has d entry) (hhas' : s.ctx.Has d' entry')
    (hworker : entry.worker = entry'.worker) : d = d' :=
  (hworker ▸ (hs.entries d entry hhas).2).unique (hs.entries d' entry' hhas').2

/-- The process of an entry was that of the entry before the step, or the step started it. -/
theorem entry_before (hs : s.WellFormed) (h : Transition s e s') {d : Oid} {entry : WorkerEntry}
    {p' : Proc} (hhas' : s'.ctx.Has d entry) (hproc' : s'.procs[entry.worker]? = some p') :
    (s.ctx.Has d entry ∧
        ∃ p, s.procs[entry.worker]? = some p ∧ ProcChange s e s' entry.worker p p') ∨
      ∃ db_name, Starts s e s' d db_name ∧ entry.worker = s.procs.length ∧ p' = fresh d := by
  rcases has_of_step hs h hhas' with hhas | ⟨db_name, hstart, rfl⟩
  · left
    obtain ⟨p, hproc, -⟩ := (hs.entries d entry hhas).2
    obtain ⟨p'', hproc'', hchange⟩ := proc_after h hproc
    obtain rfl := Option.some.inj (hproc'.symm.trans hproc'')
    exact ⟨hhas, p, hproc, hchange⟩
  · right
    refine ⟨db_name, hstart, rfl, ?_⟩
    rw [hstart.procs] at hproc'
    exact (Option.some.inj (List.getElem?_concat_length.symm.trans hproc')).symm

/-- The process of a pending entry was that of the pending entry before the step, or the step
started it. -/
theorem pending_before (hs : s.WellFormed) (h : Transition s e s') {d : Oid} {entry : WorkerEntry}
    {p' : Proc} (hpending' : s'.ctx.pending_workers.lookup d = some entry)
    (hproc' : s'.procs[entry.worker]? = some p') :
    (s.ctx.pending_workers.lookup d = some entry ∧
        ∃ p, s.procs[entry.worker]? = some p ∧ ProcChange s e s' entry.worker p p') ∨
      p' = fresh d := by
  rcases entry_before hs h (Or.inl hpending') hproc' with ⟨-, p, hproc, hchange⟩ | ⟨-, -, -, hfresh⟩
  · left
    rcases pending_of_step hs h hpending' with hpending | hnew
    · exact ⟨hpending, p, hproc, hchange⟩
    · have hlt := (List.getElem?_eq_some_iff.mp hproc).1
      omega
  · exact Or.inr hfresh

/-- An entry is the one that a shutdown of its database would take. -/
theorem WellFormed.entry?_eq (hs : s.WellFormed) {d : Oid} {entry : WorkerEntry}
    (hhas : s.ctx.Has d entry) : s.ctx.entry? d = some entry := by
  unfold LauncherContext.entry?
  rcases hhas with hpending | hworkers
  · rw [hs.disjoint d entry hpending]
    exact hpending
  · rw [hworkers]

/-- An entry stays, unless the launcher handles a message that shuts its database down. -/
theorem has_after (hs : s.WellFormed) (h : Transition s e s') {d : Oid} {entry : WorkerEntry}
    (hhas : s.ctx.Has d entry) : s'.ctx.Has d entry ∨
      ∃ started item, e = .recv started ∧ s.bus = item :: s'.bus ∧ item.msg.ShutsDown ∧
        item.msg.dbOid = d := by
  rcases bus_of_step h with ⟨started, item, effect, he, -, hbus, -, -, hhandling, -⟩ |
      ⟨news, -, -, -, hnot⟩
  · rcases hhandling.has_after (hs.disjoint d) hhas with hafter | ⟨hshut, hd⟩
    · exact Or.inl hafter
    · exact Or.inr ⟨started, item, he, hbus, hshut, hd⟩
  · left
    cases h with
    | @boot oid oids db_name hlauncher =>
      obtain ⟨-, -, huntouched⟩ := hs.booting _ hlauncher
      have hne : d ≠ oid := by
        rintro rfl
        exact (huntouched d List.mem_cons_self).1 entry hhas
      rcases hhas with hhas | hhas
      · exact Or.inl ((AList.lookup_insert_ne hne).trans hhas)
      · exact Or.inr hhas
    | recv => exact absurd rfl (hnot _)
    | backend hstep =>
      obtain ⟨-, hctx, -⟩ := hstep.frame
      rw [hctx]
      exact hhas
    | _ => exact hhas

/-- A message that shuts a database down stays on the bus as long as the database has an entry. -/
theorem shutdown_stays (hs : s.WellFormed) (h : Transition s e s') {item : Item}
    {entry : WorkerEntry} (hhas : s'.ctx.Has item.msg.dbOid entry) (hmem : item ∈ s.bus)
    (hshut : item.msg.ShutsDown) : item ∈ s'.bus := by
  rcases bus_of_step h with ⟨started, item', effect, -, -, hbus, -, -, hhandling, -⟩ |
      ⟨news, hbus, -⟩
  -- Once the message is handled, its database has no entry.
  · rcases List.mem_cons.mp (hbus ▸ hmem) with rfl | hmem
    · exact absurd hhas (hhandling.not_has hshut (hs.disjoint _) entry)
    · exact hmem
  · rw [hbus]
    exact List.mem_append_left _ hmem

/-- Every reachable state is well formed. -/
theorem wellFormed_of_run {oids : List Oid} (hoids : oids.Nodup) {catalog : Oid → Catalog}
    {es : List Event} (h : Run.run step (init oids catalog) es = some s) : s.WellFormed := by
  have hkeep : ∀ s e s', WellFormed s → step s e = some s' → WellFormed s' :=
    fun s e s' hs hstep => wellFormed_step hs (transition_of_step hstep)
  exact Run.run_invariant_of_step hkeep (wellFormed_init hoids catalog) h

/-- An invariant of the well-formed states that holds at the start, and that is kept by every step
which meets a condition, holds wherever a run ends whose steps all meet it. -/
theorem invariant_of_run {Inv : System → Prop} {Ok : System → Event → Prop}
    (hkeep : ∀ s e s', WellFormed s → Inv s → Ok s e → Transition s e s' → Inv s')
    {oids : List Oid} (hoids : oids.Nodup) {catalog : Oid → Catalog}
    (hinit : Inv (init oids catalog)) {es : List Event}
    (hok : Run.RunAll step Ok (init oids catalog) es)
    (h : Run.run step (init oids catalog) es = some s) : s.WellFormed ∧ Inv s := by
  have hwf : ∀ s e s', WellFormed s → step s e = some s' → WellFormed s' :=
    fun s e s' hs hstep => wellFormed_step hs (transition_of_step hstep)
  have hinv : ∀ s e s', WellFormed s → Inv s → Ok s e → step s e = some s' → Inv s' :=
    fun s e s' hs hinv hok hstep => hkeep s e s' hs hinv hok (transition_of_step hstep)
  exact Run.run_invariant_under hwf hinv (wellFormed_init hoids catalog) hinit hok h

/-- The first steps of the launcher, one for each database of its list, are
`add_subscribe_workers`. -/
theorem run_boot (started : Oid → Option String) {oids : List Oid}
    (hlauncher : s.launcher = .starting oids) :
    ∃ s', Run.run step s (oids.map fun oid => Event.boot (started oid)) = some s' ∧
      s'.launcher = .starting [] ∧ s'.ctx = s.ctx.addSubscribeWorkers started oids := by
  induction oids generalizing s with
  | nil => exact ⟨s, rfl, hlauncher, rfl⟩
  | cons oid oids ih =>
    obtain ⟨t, hstep, hlauncher', hctx⟩ : ∃ t, step s (.boot (started oid)) = some t ∧
        t.launcher = .starting oids ∧ t.ctx = (s.ctx.startSubscribeWorker oid (started oid)).1 := by
      unfold step LauncherContext.startSubscribeWorker
      rw [hlauncher]
      cases started oid with
      | some db_name => exact ⟨_, rfl, rfl, rfl⟩
      | none => exact ⟨_, rfl, rfl, rfl⟩
    obtain ⟨s', hrun, hdone, hctx'⟩ := ih hlauncher'
    refine ⟨s', ?_, hdone, ?_⟩
    · rw [List.map_cons, Run.run_cons_eq_some]
      exact ⟨t, hstep, hrun⟩
    · rw [hctx', hctx]
      rfl

end PgNats.System
