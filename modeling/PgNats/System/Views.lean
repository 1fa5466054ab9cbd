import PgNats.System.Transition

/-!
# What a step is to a process and to the bus

Views of a step, from which the invariants of the following modules are built. A process is started
in two ways only, `starts_or_same`: all other steps leave the list of the processes' databases as it
is and give the launcher no new entry. For a process that is there, a step is nothing, a message
that comes through its queue, or its own move, `proc_after` and `proc_before`. For the bus, a step
takes the oldest message off and handles it, or adds messages, `bus_of_step`. A send of the launcher
begins when it handles a message, `sending_of_step`, and ends by its receiver, `sending_after`.
-/

namespace PgNats.System

variable {s s' : System} {e : Event}

/-- The process with this number is one of this database. -/
def IsProc (s : System) (g : ℕ) (d : Oid) : Prop := ∃ p, s.procs[g]? = some p ∧ p.db = d

/-- The databases of the processes. -/
def dbs (s : System) : List Oid := s.procs.map Proc.db

/-- The database of a process is its entry in the list. -/
theorem isProc_iff {g : ℕ} {d : Oid} : s.IsProc g d ↔ s.dbs[g]? = some d := by
  unfold IsProc dbs
  rw [List.getElem?_map, Option.map_eq_some_iff]

/-- A new process of a database. -/
def fresh (d : Oid) : Proc := { db := d, pc := .starting, terminating := false, delivered := [] }

/-- A step that starts a worker for a database: the next one of the launcher's list, or one without
an entry that a configuration came for. -/
structure Starts (s : System) (e : Event) (s' : System) (d : Oid) (db_name : String) : Prop where
  /-- The new process. -/
  procs : s'.procs = s.procs ++ [fresh d]
  /-- The new entry. -/
  ctx : s'.ctx = { s.ctx with
    counter := s.ctx.counter + 1
    pending_workers := s.ctx.pending_workers.insert d ⟨db_name, d, s.ctx.counter⟩ }
  /-- What starts it. -/
  cause : (e = .boot (some db_name) ∧ s'.bus = s.bus ∧
      ∃ oids, s.launcher = .starting (d :: oids) ∧ s'.launcher = .starting oids) ∨
    (e = .recv (some db_name) ∧ s.launcher = .draining ∧ s'.launcher = .draining ∧
      s.ctx.entry? d = none ∧ ∃ config sender, s.bus = ⟨.newConfig d config, sender⟩ :: s'.bus)

/-- After a step that starts a worker, an entry is one from before, or that of the new worker. -/
theorem Starts.has {d d' : Oid} {db_name : String} {entry : WorkerEntry}
    (hstart : Starts s e s' d' db_name) (hhas : s'.ctx.Has d entry) :
    s.ctx.Has d entry ∨ (d = d' ∧ entry = ⟨db_name, d', s.ctx.counter⟩) := by
  rw [hstart.ctx] at hhas
  rcases hhas with hpending | hworkers
  · rcases HashMap.lookup_insert_eq_some hpending with hnew | hold
    · exact Or.inr hnew
    · exact Or.inl (Or.inl hold)
  · exact Or.inl (Or.inr hworkers)

/-- A change of a process that keeps its database keeps the list of databases. -/
theorem map_db_set {procs : List Proc} {g : ℕ} {p p' : Proc} (hproc : procs[g]? = some p)
    (hdb : p'.db = p.db) : (procs.set g p').map Proc.db = procs.map Proc.db := by
  obtain ⟨hlt, hp⟩ := List.getElem?_eq_some_iff.mp hproc
  have hlt' : g < (procs.map Proc.db).length := by rwa [List.length_map]
  have hget : (procs.map Proc.db)[g] = p'.db := by rw [List.getElem_map, hp, hdb]
  rw [List.map_set, ← hget, List.set_getElem_self]

/-- `SIGTERM` changes no database. -/
theorem map_db_modify (procs : List Proc) (g : ℕ) :
    (procs.modify g fun p => { p with terminating := true }).map Proc.db = procs.map Proc.db := by
  apply List.ext_getElem?
  intro i
  rw [List.getElem?_map, List.getElem?_map, List.getElem?_modify]
  cases procs[i]? with
  | none => rfl
  | some p => by_cases hi : g = i <;> simp [hi]

/-- A step starts a worker, or it changes neither the databases of the processes nor the number of
starts, and gives the launcher no new entry. -/
theorem starts_or_same (h : Transition s e s') : (∃ d db_name, Starts s e s' d db_name) ∨
    (s'.dbs = s.dbs ∧ s'.ctx.counter = s.ctx.counter ∧
      ∀ d entry, s'.ctx.Has d entry → s.ctx.Has d entry) := by
  cases h with
  | boot hlauncher => exact Or.inl ⟨_, _, rfl, rfl, Or.inl ⟨rfl, rfl, _, hlauncher, rfl⟩⟩
  | bootFailed hlauncher => exact Or.inr ⟨rfl, rfl, fun _ _ hhas => hhas⟩
  | booted hlauncher => exact Or.inr ⟨rfl, rfl, fun _ _ hhas => hhas⟩
  | wake hlauncher hgone => exact Or.inr ⟨rfl, rfl, fun _ _ hhas => hhas⟩
  | @recv item rest started ctx effect hlauncher hbus hhandling =>
    obtain ⟨msg, sender⟩ := item
    have hold : ∀ d entry, ctx.Has d entry →
        s.ctx.Has d entry ∨ effect = some (.start entry) := fun _ _ hhas => hhandling.has hhas
    cases hhandling with
    | register hpending =>
      refine Or.inr ⟨rfl, rfl, fun d entry hhas => ?_⟩
      exact (hold d entry hhas).resolve_right (by simp)
    | shutdownRegistered hmsg hworkers =>
      refine Or.inr ⟨map_db_modify _ _, rfl, fun d entry hhas => ?_⟩
      exact (hold d entry hhas).resolve_right (by simp)
    | shutdownPending hmsg hworkers hpending =>
      refine Or.inr ⟨map_db_modify _ _, rfl, fun d entry hhas => ?_⟩
      exact (hold d entry hhas).resolve_right (by simp)
    | forward hmsg hworkers => exact Or.inr ⟨rfl, rfl, fun _ _ hhas => hhas⟩
    | start hstarted hworkers hpending =>
      have hnone := (LauncherContext.entry?_eq_none _ _).mpr ⟨hworkers, hpending⟩
      obtain rfl := hstarted
      exact Or.inl ⟨_, _, rfl, rfl, Or.inr ⟨rfl, hlauncher, hlauncher, hnone, _, _, hbus⟩⟩
    | ignore hshut hforward hregister hstart => exact Or.inr ⟨rfl, rfl, fun _ _ hhas => hhas⟩
  | sent hlauncher hproc hpc =>
    exact Or.inr ⟨map_db_set hproc rfl, rfl, fun _ _ hhas => hhas⟩
  | sendFailed hlauncher hproc hpc => exact Or.inr ⟨rfl, rfl, fun _ _ hhas => hhas⟩
  | unlock hlauncher hbus => exact Or.inr ⟨rfl, rfl, fun _ _ hhas => hhas⟩
  | proc hproc hlock hstep => exact Or.inr ⟨map_db_set hproc rfl, rfl, fun _ _ hhas => hhas⟩
  | backend hstep =>
    obtain ⟨-, hctx, hprocs, -⟩ := hstep.frame
    refine Or.inr ⟨?_, by rw [hctx], fun d entry hhas => hctx ▸ hhas⟩
    unfold dbs
    rw [hprocs]

/-- A process stays, and so does its database. -/
theorem IsProc.step {g : ℕ} {d : Oid} (h : Transition s e s') (hproc : s.IsProc g d) :
    s'.IsProc g d := by
  rw [isProc_iff] at hproc ⊢
  rcases starts_or_same h with ⟨d', db_name, hstart⟩ | ⟨hdbs, -⟩
  · unfold dbs at hproc ⊢
    rw [hstart.procs, List.map_append]
    rw [List.getElem?_append_left (List.getElem?_eq_some_iff.mp hproc).1]
    exact hproc
  · rw [hdbs]
    exact hproc

/-- A process was there before the step, or it is the one started. -/
theorem isProc_of_step {g : ℕ} {d : Oid} (h : Transition s e s') (hproc : s'.IsProc g d) :
    s.IsProc g d ∨ (g = s.procs.length ∧ ∃ db_name, Starts s e s' d db_name) := by
  rw [isProc_iff] at hproc ⊢
  rcases starts_or_same h with ⟨d', db_name, hstart⟩ | ⟨hdbs, -⟩
  · unfold dbs at hproc ⊢
    rw [hstart.procs, List.map_append, List.getElem?_append, List.length_map] at hproc
    split_ifs at hproc with hlt
    · exact Or.inl hproc
    · right
      obtain ⟨hlast, hget⟩ := List.getElem?_eq_some_iff.mp hproc
      have hone : g - s.procs.length < 1 := hlast
      have hzero : g - s.procs.length = 0 := by omega
      refine ⟨by omega, db_name, ?_⟩
      simp only [hzero] at hget
      rwa [← show d' = d from hget]
  · left
    rwa [hdbs] at hproc

/-- What a process posts is a report about its own database, and it has not exited before. -/
theorem posted_report {p : Proc} {catalog : Catalog} {pe : ProcEvent} {r : ProcStep}
    {msg : LauncherMessage} (h : ProcTransition p catalog pe r) (hposted : r.posted = some msg) :
    msg.IsReport ∧ msg.dbOid = p.db ∧ pe.locks = true ∧ ∀ attached, p.pc ≠ .exited attached := by
  cases h with
  | reportExist hpc =>
    obtain rfl := Option.some.inj hposted
    exact ⟨trivial, rfl, rfl, by simp [hpc]⟩
  | reportOther hpc hstatus =>
    obtain rfl := Option.some.inj hposted
    exact ⟨trivial, rfl, rfl, by simp [hpc]⟩
  | exit hpc =>
    obtain rfl := Option.some.inj hposted
    exact ⟨trivial, rfl, rfl, by simp [hpc]⟩
  | _ => exact absurd hposted (by simp)

/-- A message on the bus was there before the step, or it is new: a backend's, or the report of a
process about its own database. -/
theorem mem_bus_of_step (h : Transition s e s') {item : Item} (hmem : item ∈ s'.bus) :
    item ∈ s.bus ∨ (item.sender = none ∧ item.msg.FromBackend) ∨
      ∃ g p, item.sender = some g ∧ s.procs[g]? = some p ∧ item.msg.IsReport ∧
        item.msg.dbOid = p.db ∧ ¬ s.Locked ∧ ∀ attached, p.pc ≠ .exited attached := by
  cases h with
  | recv hlauncher hbus hhandling => exact Or.inl (hbus ▸ List.mem_cons_of_mem _ hmem)
  | @proc g pe p r hproc hlock hstep =>
    rcases List.mem_append.mp hmem with hmem | hmem
    · exact Or.inl hmem
    · obtain ⟨msg, hposted, rfl⟩ := List.mem_map.mp hmem
      obtain ⟨hreport, hdb, hlocks, hpc⟩ := posted_report hstep (Option.mem_toList.mp hposted)
      exact Or.inr (Or.inr ⟨g, p, rfl, hproc, hreport, hdb, hlock hlocks, hpc⟩)
  | backend hstep =>
    obtain ⟨-, -, -, -, msgs, hbackend, hbus, -⟩ := hstep.frame
    rw [hbus] at hmem
    rcases List.mem_append.mp hmem with hmem | hmem
    · exact Or.inl hmem
    · obtain ⟨msg, hmsg, rfl⟩ := List.mem_map.mp hmem
      exact Or.inr (Or.inl ⟨rfl, hbackend msg hmsg⟩)
  | _ => exact Or.inl hmem

/-- The launcher handles a message that shuts this process down. -/
def Terminates (s : System) (e : Event) (g : ℕ) : Prop :=
  ∃ started item rest entry, e = .recv started ∧ s.bus = item :: rest ∧ item.msg.ShutsDown ∧
    s.ctx.Has item.msg.dbOid entry ∧ entry.worker = g

/-- What a step is to a process. -/
inductive ProcChange (s : System) (e : Event) (s' : System) (g : ℕ) (p : Proc) : Proc → Prop where
  /-- Nothing, or `SIGTERM`. -/
  | same (terminating : Bool) (hterminating : terminating = p.terminating ∨ Terminates s e g)
    (hother : e = .sent → ∀ msg, s.launcher ≠ .sending g msg) :
    ProcChange s e s' g p { p with terminating }
  /-- A message comes through its queue. -/
  | received {msg : SubscriberMessage} {sub : Subscriber} (he : e = .sent)
    (hlauncher : s.launcher = .sending g msg) (hlauncher' : s'.launcher = .draining)
    (hpc : p.pc = .looping sub) :
    ProcChange s e s' g p { p with
      pc := .looping { sub with recv := sub.recv ++ [msg] }
      delivered := p.delivered ++ [msg] }
  /-- Its own move. -/
  | moved {pe : ProcEvent} {r : ProcStep} (he : e = .proc g pe)
    (hlock : pe.locks = true → ¬ s.Locked) (hstep : ProcTransition p (s.catalog p.db) pe r)
    (hs' : s' = s.advance g p r) : ProcChange s e s' g p { p with pc := r.pc }

/-- What `SIGTERM` is to a process. -/
theorem getElem?_terminate {procs : List Proc} {g : ℕ} {p : Proc} (hproc : procs[g]? = some p)
    (g' : ℕ) : ∃ terminating, (terminating = p.terminating ∨ g' = g) ∧
      (procs.modify g' fun p => { p with terminating := true })[g]? =
        some { p with terminating } := by
  rw [List.getElem?_modify, hproc]
  by_cases heq : g' = g
  · exact ⟨true, Or.inr heq, by simp [heq]⟩
  · exact ⟨p.terminating, Or.inl rfl, by simp [heq]⟩

/-- A process stays, changed in one of the three ways. -/
theorem proc_after (h : Transition s e s') {g : ℕ} {p : Proc} (hproc : s.procs[g]? = some p) :
    ∃ p', s'.procs[g]? = some p' ∧ ProcChange s e s' g p p' := by
  have happend : ∀ p', (s.procs ++ [p'])[g]? = some p := fun p' => by
    rw [List.getElem?_append_left (List.getElem?_eq_some_iff.mp hproc).1, hproc]
  have hset : ∀ {g' p''}, g' ≠ g → (s.procs.set g' p'')[g]? = some p := fun hne => by
    rw [List.getElem?_set_ne hne, hproc]
  have hself : ∀ p'', (s.procs.set g p'')[g]? = some p'' := fun p'' =>
    List.getElem?_set_self (List.getElem?_eq_some_iff.mp hproc).1
  have hkeep : e ≠ .sent → ProcChange s e s' g p p := fun he =>
    .same p.terminating (Or.inl rfl) fun heq => absurd heq he
  cases h with
  | boot hlauncher => exact ⟨p, happend _, hkeep (by simp)⟩
  | @recv item rest started ctx effect hlauncher hbus hhandling =>
    have hterminate : ∀ entry, item.msg.ShutsDown → s.ctx.Has item.msg.dbOid entry →
        effect = some (.terminate entry) →
        ∃ p', (s.procs.modify entry.worker fun p => { p with terminating := true })[g]? = some p' ∧
          ProcChange s (.recv started) ((s.taking item rest ctx).perform effect) g p p' := by
      intro entry hshut hhas heffect
      obtain ⟨terminating, hor, hproc'⟩ := getElem?_terminate hproc entry.worker
      refine ⟨_, hproc', .same terminating (hor.imp_right fun hg => ?_) (by simp)⟩
      exact ⟨started, item, rest, entry, rfl, hbus, hshut, hhas, hg⟩
    obtain ⟨msg, sender⟩ := item
    cases hhandling with
    | shutdownRegistered hmsg hworkers => exact hterminate _ hmsg (Or.inr hworkers) rfl
    | shutdownPending hmsg hworkers hpending => exact hterminate _ hmsg (Or.inl hpending) rfl
    | start hstarted hworkers hpending => exact ⟨p, happend _, hkeep (by simp)⟩
    | _ => exact ⟨p, hproc, hkeep (by simp)⟩
  | @sent worker msg p' sub hlauncher hproc' hpc =>
    rcases eq_or_ne worker g with rfl | hne
    · obtain rfl := Option.some.inj (hproc.symm.trans hproc')
      exact ⟨_, hself _, .received rfl hlauncher rfl hpc⟩
    · refine ⟨p, hset hne, .same p.terminating (Or.inl rfl) fun _ msg' hlauncher' => ?_⟩
      exact hne (LauncherPc.sending.inj (hlauncher.symm.trans hlauncher')).1
  | @proc g' pe p' r hproc' hlock hstep =>
    rcases eq_or_ne g' g with rfl | hne
    · obtain rfl := Option.some.inj (hproc.symm.trans hproc')
      exact ⟨_, hself _, .moved rfl hlock hstep rfl⟩
    · exact ⟨p, hset hne, hkeep (by simp)⟩
  | backend hstep =>
    obtain ⟨-, -, hprocs, -⟩ := hstep.frame
    refine ⟨p, hprocs ▸ hproc, hkeep ?_⟩
    rintro rfl
    cases hstep
  | _ => exact ⟨p, hproc, hkeep (by simp)⟩

/-- A process was there before the step, or it is the one started. -/
theorem proc_before (h : Transition s e s') {g : ℕ} {p' : Proc} (hproc' : s'.procs[g]? = some p') :
    (∃ p, s.procs[g]? = some p ∧ ProcChange s e s' g p p') ∨
      ∃ d db_name, Starts s e s' d db_name ∧ g = s.procs.length ∧ p' = fresh d := by
  cases hproc : s.procs[g]? with
  | some p =>
    obtain ⟨p'', hproc'', hchange⟩ := proc_after h hproc
    obtain rfl := Option.some.inj (hproc'.symm.trans hproc'')
    exact Or.inl ⟨p, rfl, hchange⟩
  | none =>
    right
    have hle := List.getElem?_eq_none_iff.mp hproc
    rcases starts_or_same h with ⟨d, db_name, hstart⟩ | ⟨hdbs, -⟩
    · rw [hstart.procs, List.getElem?_append_right hle] at hproc'
      obtain ⟨hlt, hget⟩ := List.getElem?_eq_some_iff.mp hproc'
      have hzero : g - s.procs.length = 0 := Nat.lt_one_iff.mp hlt
      simp only [hzero] at hget
      exact ⟨d, db_name, hstart, by omega, hget.symm⟩
    · have hlength := congrArg List.length hdbs
      unfold dbs at hlength
      rw [List.length_map, List.length_map] at hlength
      have hlt := (List.getElem?_eq_some_iff.mp hproc').1
      omega

/-- A step takes the oldest message off the bus and handles it, or adds messages to the bus. -/
theorem bus_of_step (h : Transition s e s') :
    (∃ started item effect, e = .recv started ∧ s.launcher = .draining ∧
      s.bus = item :: s'.bus ∧ s'.accepted = s.accepted ∧
      s'.taken = s.taken ++
        [(item.msg, (s.ctx.entry? item.msg.dbOid).map WorkerEntry.worker)] ∧
      Handling s.ctx started item.msg s'.ctx effect ∧
      s'.launcher = (s.perform effect).launcher) ∨
    (∃ news : List Item, s'.bus = s.bus ++ news ∧ s'.accepted = s.accepted ++ news.map Item.msg ∧
      s'.taken = s.taken ∧ ∀ started, e ≠ .recv started) := by
  cases h with
  | recv hlauncher hbus hhandling =>
    exact Or.inl ⟨_, _, _, rfl, hlauncher, hbus, rfl, rfl, hhandling, rfl⟩
  | @proc g pe p r hproc hlock hstep =>
    refine Or.inr ⟨r.posted.toList.map fun msg => ⟨msg, some g⟩, rfl, ?_, rfl, by simp⟩
    rw [List.map_map]
    exact congrArg (s.accepted ++ ·) (List.map_id _).symm
  | backend hstep =>
    obtain ⟨-, -, -, htaken, msgs, -, hbus, haccepted⟩ := hstep.frame
    refine Or.inr ⟨_, hbus, ?_, htaken, ?_⟩
    · rw [haccepted, List.map_map]
      exact congrArg (s.accepted ++ ·) (List.map_id _).symm
    · intro started he
      rw [he] at hstep
      cases hstep
  | _ => exact Or.inr ⟨[], (List.append_nil _).symm, (List.append_nil _).symm, rfl, by simp⟩

/-- A launcher that is sending was sending before the step, or it begins to forward the message that
it handles to the registered worker of its database. -/
theorem sending_of_step (h : Transition s e s') {g : ℕ} {msg : SubscriberMessage}
    (hlauncher' : s'.launcher = .sending g msg) :
    (s.launcher = .sending g msg ∧ s'.ctx = s.ctx ∧ ∀ started, e ≠ .recv started) ∨
      ∃ started item entry, e = .recv started ∧ s.bus = item :: s'.bus ∧ s'.ctx = s.ctx ∧
        item.msg.forward? = some msg ∧ s.ctx.workers.lookup item.msg.dbOid = some entry ∧
        entry.worker = g := by
  cases h with
  | @recv item rest started ctx effect hlauncher hbus hhandling =>
    obtain ⟨msg', sender⟩ := item
    cases hhandling with
    | forward hmsg hworkers =>
      obtain ⟨hworker, rfl⟩ := LauncherPc.sending.inj hlauncher'
      exact Or.inr ⟨started, _, _, rfl, hbus, rfl, hmsg, hworkers, hworker⟩
    | _ => exact absurd (hlauncher.symm.trans hlauncher') (by simp)
  | proc hproc hlock hstep => exact Or.inl ⟨hlauncher', rfl, by simp⟩
  | backend hstep =>
    obtain ⟨hlauncher, hctx, -⟩ := hstep.frame
    refine Or.inl ⟨hlauncher ▸ hlauncher', hctx, ?_⟩
    rintro started rfl
    cases hstep
  | _ => exact absurd hlauncher' (by simp [perform])

/-- A send goes on, unless its receiver is in its loop and reads, or has detached. -/
theorem sending_after (h : Transition s e s') {g : ℕ} {msg : SubscriberMessage}
    (hlauncher : s.launcher = .sending g msg) :
    s'.launcher = .sending g msg ∨ ∃ p, s.procs[g]? = some p ∧
      ((e = .sent ∧ ∃ sub, p.pc = .looping sub) ∨
        (∃ reason, p.pc = .leaving true reason) ∨ p.pc = .exited true) := by
  cases h with
  | sent hother hproc hpc =>
    obtain ⟨rfl, -⟩ := LauncherPc.sending.inj (hlauncher.symm.trans hother)
    exact Or.inr ⟨_, hproc, Or.inl ⟨rfl, _, hpc⟩⟩
  | sendFailed hother hproc hpc =>
    obtain ⟨rfl, -⟩ := LauncherPc.sending.inj (hlauncher.symm.trans hother)
    exact Or.inr ⟨_, hproc, Or.inr hpc⟩
  | proc hproc hlock hstep => exact Or.inl hlauncher
  | backend hstep => exact Or.inl (hstep.frame.1.trans hlauncher)
  -- All other steps of the launcher are made from elsewhere.
  | boot hother => exact absurd (hlauncher.symm.trans hother) (by simp)
  | bootFailed hother => exact absurd (hlauncher.symm.trans hother) (by simp)
  | booted hother => exact absurd (hlauncher.symm.trans hother) (by simp)
  | wake hother hgone => exact absurd (hlauncher.symm.trans hother) (by simp)
  | recv hother hbus hhandling => exact absurd (hlauncher.symm.trans hother) (by simp)
  | unlock hother hbus => exact absurd (hlauncher.symm.trans hother) (by simp)

/-- The committed servers, the extension, and the transactions change by backends only. -/
theorem catalog_of_step (h : Transition s e s') : BackendTransition s e s' ∨
    ((∀ d, (s'.catalog d).servers = (s.catalog d).servers ∧
        (s'.catalog d).installed = (s.catalog d).installed) ∧
      s'.txns = s.txns ∧ s'.next_txn = s.next_txn ∧ s'.posted = s.posted) := by
  cases h with
  | backend hstep => exact Or.inl hstep
  | @proc g pe p r hproc hlock hstep =>
    refine Or.inr ⟨fun d => ?_, rfl, rfl, rfl⟩
    rcases eq_or_ne d p.db with rfl | hne
    · simp [advance]
    · simp [advance, hne]
  | _ => exact Or.inr ⟨fun _ => ⟨rfl, rfl⟩, rfl, rfl, rfl⟩

end PgNats.System
