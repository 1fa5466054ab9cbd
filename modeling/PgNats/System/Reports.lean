import PgNats.System.WellFormed

/-!
# Whose report it is

A report on the bus names a database and not the process that sent it, and the launcher applies it
to the entry that the database has when the report is handled. A process that leaves can have two
reports on the bus, and a configuration between them starts its successor, so that the second one
shuts the successor down.

`reports_attributed` says when this cannot happen: when a worker is started for a database only
after every process of the database before it is gone and its reports are handled (`StartSafe`). The
invariant is that a process which can still report, or has a report on the bus, is the one that the
entry of its database belongs to, `Attributed`. The entries of terminated workers need no condition:
the launcher clears them before it takes the lock, and a worker that it starts while it has the lock
cannot report before it releases it, `Quiet`.
-/

namespace PgNats.System

variable {s s' : System} {e : Event}

/-- The process is not gone, or has a report on the bus. -/
def Active (s : System) (g : ℕ) : Prop :=
  ¬ s.Gone g ∨ ∃ item ∈ s.bus, item.sender = some g

instance (s : System) (g : ℕ) : Decidable (s.Gone g) :=
  match hproc : s.procs[g]? with
  | some p =>
    match hpc : p.pc with
    | .exited attached => .isTrue ⟨p, attached, hproc, hpc⟩
    | .starting | .reporting _ | .fetching | .connecting _ | .attaching _ | .looping _
    | .leaving _ _ => .isFalse (by
        rintro ⟨p', attached, hproc', hpc'⟩
        obtain rfl := Option.some.inj (hproc.symm.trans hproc')
        exact absurd (hpc.symm.trans hpc') (by simp))
  | none => .isFalse (by
      rintro ⟨p', attached, hproc', hpc'⟩
      exact absurd (hproc.symm.trans hproc') (by simp))

instance (s : System) (g : ℕ) : Decidable (s.Active g) :=
  inferInstanceAs (Decidable (¬ s.Gone g ∨ ∃ item ∈ s.bus, item.sender = some g))

instance (s : System) (g : ℕ) (d : Oid) : Decidable (s.IsProc g d) :=
  decidable_of_iff (s.dbs[g]? = some d) isProc_iff.symm

/-- The database for which handling the next message starts a worker: it has no entry, and the
message is a configuration. -/
def nextStart (s : System) : Option Oid :=
  match s.bus with
  | ⟨.newConfig d _, _⟩ :: _ => if s.ctx.entry? d = none then some d else none
  | _ => none

/-- The condition on a step: where the launcher starts a worker for a configuration, no process of
the database is there any more, and no report of one is on the bus. -/
def StartSafe (s : System) : Event → Prop
  | .recv (some _) => ∀ d ∈ s.nextStart, ∀ g < s.procs.length, s.IsProc g d → ¬ s.Active g
  | _ => True

instance (s : System) : ∀ e, Decidable (s.StartSafe e) := Event.Decisions.decidable {
  recv
    -- The one database is looked at, not all the object identifiers.
    | some _ => Option.decidableForallMem (p := fun d =>
        ∀ g < s.procs.length, s.IsProc g d → ¬ s.Active g) s.nextStart
    | none => .isTrue trivial }

/-- A process that can still report, or has a report on the bus, is the one that the entry of its
database belongs to. -/
def Attributed (s : System) : Prop :=
  ∀ d entry, s.ctx.Has d entry → ∀ g, s.IsProc g d → s.Active g → entry.worker = g

/-- While the launcher handles messages, a worker that follows a terminated one has no report on the
bus. -/
def Quiet (s : System) : Prop :=
  s.launcher ≠ .idle → ∀ d entry entry', s.ctx.terminated_workers.lookup d = some entry →
    s.ctx.Has d entry' → ∀ item ∈ s.bus, item.sender ≠ some entry'.worker

/-- A process that is gone stays so. -/
theorem Gone.step {g : ℕ} (h : Transition s e s') (hgone : s.Gone g) : s'.Gone g := by
  obtain ⟨p, attached, hproc, hpc⟩ := hgone
  obtain ⟨p', hproc', hchange⟩ := proc_after h hproc
  refine ⟨p', attached, hproc', ?_⟩
  cases hchange with
  | same terminating hterminating hother => exact hpc
  | received he hlauncher hlauncher' hpc' => exact absurd (hpc.symm.trans hpc') (by simp)
  | moved he hlock hstep hs' => exact absurd hpc (hstep.not_exited attached)

/-- A process that is active was so before the step. -/
theorem Active.of_step {g : ℕ} (h : Transition s e s') (hactive : s'.Active g) : s.Active g := by
  rcases hactive with hgone | ⟨item, hmem, hsender⟩
  · exact Or.inl fun hbefore => hgone (hbefore.step h)
  · rcases mem_bus_of_step h hmem with hmem | ⟨hnone, -⟩ | ⟨g', p, hsome, hproc, -, -, -, hpc⟩
    · exact Or.inr ⟨item, hmem, hsender⟩
    · exact absurd (hnone.symm.trans hsender) (by simp)
    -- The report is new, and its sender is not gone yet.
    · obtain rfl := Option.some.inj (hsome.symm.trans hsender)
      left
      rintro ⟨p', attached, hproc', hpc'⟩
      obtain rfl := Option.some.inj (hproc.symm.trans hproc')
      exact hpc attached hpc'

/-- The database of a step that starts a worker while the launcher handles messages. -/
theorem nextStart_eq {d : Oid} {config : Config} {sender : Option ℕ} {rest : List Item}
    (hbus : s.bus = ⟨.newConfig d config, sender⟩ :: rest) (hnone : s.ctx.entry? d = none) :
    s.nextStart = some d := by
  unfold nextStart
  rw [hbus]
  exact if_pos hnone

/-- A worker that is started safely finds no active process of its database. -/
theorem StartSafe.not_active {d : Oid} {db_name : String} {g : ℕ} (hs : s.WellFormed)
    (hok : s.StartSafe e) (hstart : Starts s e s' d db_name) (hproc : s.IsProc g d) :
    ¬ s.Active g := by
  rcases hstart.cause with ⟨-, -, oids, hlauncher, -⟩ | ⟨rfl, -, -, hnone, config, sender, hbus⟩
  · obtain ⟨-, -, huntouched⟩ := hs.booting _ hlauncher
    exact absurd hproc ((huntouched d List.mem_cons_self).2 g)
  · have hlt : g < s.procs.length := by
      obtain ⟨p, hp, -⟩ := hproc
      exact (List.getElem?_eq_some_iff.mp hp).1
    exact hok d (nextStart_eq hbus hnone) g hlt hproc

/-- A step that meets the condition keeps the entries with their active processes. -/
theorem attributed_step (hwf : s.WellFormed) (hs : s.Attributed) (hok : s.StartSafe e)
    (h : Transition s e s') : s'.Attributed := by
  intro d entry hhas g hproc hactive
  have hbefore : s.Active g := hactive.of_step h
  rcases isProc_of_step h hproc with hproc | ⟨rfl, db_name, hstart⟩
  · rcases has_of_step hwf h hhas with hhas | ⟨db_name, hstart, -⟩
    · exact hs d entry hhas g hproc hbefore
    · -- The new worker's database has no active process.
      exact absurd hbefore (hok.not_active hwf hstart hproc)
  · rcases hstart.has hhas with hhas | ⟨-, rfl⟩
    · exact absurd hhas (hstart.not_has hwf entry)
    · exact hwf.counter

/-- Outside of its handling of messages, the launcher is idle after a step, or it has no terminated
worker to wait for. -/
theorem terminated_of_not_locked (hwf : s'.WellFormed) (h : Transition s e s')
    (hlock : ¬ s.Locked) (hidle : s'.launcher ≠ .idle) :
    s'.ctx.terminated_workers = ∅ := by
  have hlocked : ∀ {launcher}, s.launcher = launcher → launcher = .draining ∨
      (∃ g msg, launcher = .sending g msg) → s'.ctx.terminated_workers = ∅ := by
    rintro launcher hlauncher (rfl | ⟨g, msg, rfl⟩) <;>
      exact absurd (by unfold Locked; rw [hlauncher]; trivial) hlock
  have hsame : s'.launcher = s.launcher → s'.ctx.terminated_workers = ∅ := by
    intro heq
    cases hlauncher : s.launcher with
    | starting oids => exact (hwf.booting oids (heq.trans hlauncher)).2.1
    | idle => exact absurd (heq.trans hlauncher) hidle
    | draining => exact hlocked hlauncher (Or.inl rfl)
    | sending g msg => exact hlocked hlauncher (Or.inr ⟨g, msg, rfl⟩)
  cases h with
  | boot hlauncher => exact (hwf.booting _ rfl).2.1
  | bootFailed hlauncher => exact (hwf.booting _ rfl).2.1
  | booted hlauncher => exact absurd rfl hidle
  | wake hlauncher hgone => rfl
  | recv hlauncher hbus hhandling => exact hlocked hlauncher (Or.inl rfl)
  | sent hlauncher hproc hpc => exact hlocked hlauncher (Or.inr ⟨_, _, rfl⟩)
  | sendFailed hlauncher hproc hpc => exact hlocked hlauncher (Or.inr ⟨_, _, rfl⟩)
  | unlock hlauncher hbus => exact hlocked hlauncher (Or.inl rfl)
  | proc hproc hlock' hstep => exact hsame rfl
  | backend hstep => exact hsame hstep.frame.1

/-- While the launcher has the lock, only backends' messages come to the bus. -/
theorem mem_bus_of_locked (h : Transition s e s') (hlock : s.Locked) {item : Item} {g : ℕ}
    (hmem : item ∈ s'.bus) (hsender : item.sender = some g) : item ∈ s.bus := by
  rcases mem_bus_of_step h hmem with hmem | ⟨hnone, -⟩ | ⟨g', p, -, -, -, -, hunlocked, -⟩
  · exact hmem
  · exact absurd (hnone.symm.trans hsender) (by simp)
  · exact absurd hlock hunlocked

/-- Every step keeps the successors of terminated workers quiet. -/
theorem quiet_step (hwf : s.WellFormed) (hs : s.Quiet) (h : Transition s e s') : s'.Quiet := by
  intro hidle d entry entry' hterminated hhas item hmem hsender
  -- With the lock held, only backends post; without it, nothing is terminated.
  by_cases hlock : s.Locked
  · have hbusy : s.launcher ≠ .idle := by
      intro hlauncher
      unfold Locked at hlock
      rw [hlauncher] at hlock
      exact hlock
    have hold := mem_bus_of_locked h hlock hmem hsender
    rcases terminated_of_step hwf h hterminated with hterminated | ⟨-, hnone⟩
    · rcases has_of_step hwf h hhas with hhas | ⟨db_name, hstart, rfl⟩
      · exact hs hbusy d entry entry' hterminated hhas item hold hsender
      · -- The worker is new, and nothing on the bus is from it.
        obtain ⟨-, p, hproc, -⟩ := hwf.reports item hold _ hsender
        exact lt_irrefl _ (List.getElem?_eq_some_iff.mp hproc).1
    · exact hnone entry' hhas
  · rw [terminated_of_not_locked (wellFormed_step hwf h) h hlock hidle] at hterminated
    exact absurd hterminated (by simp)

/-- In a state where entries and active processes belong together, a report leaves the entries of
all other workers as they are, and terminates none of them. -/
theorem report_step (hwf : s.WellFormed) (hattributed : s.Attributed) (hquiet : s.Quiet)
    {item : Item} {rest : List Item} {g : ℕ} (hbus : s.bus = item :: rest)
    (hsender : item.sender = some g) {started : Option String}
    (h : Transition s (.recv started) s') (entry : WorkerEntry) (hne : entry.worker ≠ g) (d : Oid) :
    (s'.ctx.pending_workers.lookup d = some entry ↔ s.ctx.pending_workers.lookup d = some entry) ∧
      (s'.ctx.workers.lookup d = some entry ↔ s.ctx.workers.lookup d = some entry) ∧
      (s'.ctx.terminated_workers.lookup d = some entry ↔
        s.ctx.terminated_workers.lookup d = some entry) ∧
      s'.procs[entry.worker]? = s.procs[entry.worker]? := by
  obtain ⟨hreport, hproc⟩ := hwf.reports item (hbus ▸ List.mem_cons_self) g hsender
  -- Every entry of the report's database is that of the sender.
  have hown : ∀ entry', s.ctx.Has item.msg.dbOid entry' → entry'.worker = g := fun entry' hhas =>
    hattributed _ entry' hhas g hproc (Or.inr ⟨item, hbus ▸ List.mem_cons_self, hsender⟩)
  have hother : ∀ entry', s.ctx.Has item.msg.dbOid entry' → entry' ≠ entry := by
    rintro entry' hhas rfl
    exact hne (hown entry' hhas)
  -- The worker shut down may follow one that is still listed as terminated, but then it is quiet.
  have hinsert : ∀ entry', s.launcher = .draining → s.ctx.Has item.msg.dbOid entry' →
      ((s.ctx.terminated_workers.insert entry'.oid entry').lookup d = some entry ↔
        s.ctx.terminated_workers.lookup d = some entry) := by
    intro entry' hlauncher hhas
    rw [(hwf.entries _ _ hhas).1]
    refine HashMap.lookup_insert_iff (fun hterminated => ?_) (hother entry' hhas)
    exact hquiet (by simp [hlauncher]) _ _ _ hterminated hhas item (hbus ▸ List.mem_cons_self)
      (hown entry' hhas ▸ hsender)
  have hpending : (s.ctx.pending_workers.erase item.msg.dbOid).lookup d = some entry ↔
      s.ctx.pending_workers.lookup d = some entry :=
    HashMap.lookup_erase_iff fun hlookup => hother entry (Or.inl hlookup) rfl
  have hworkers : (s.ctx.workers.erase item.msg.dbOid).lookup d = some entry ↔
      s.ctx.workers.lookup d = some entry :=
    HashMap.lookup_erase_iff fun hlookup => hother entry (Or.inr hlookup) rfl
  have hmodify : ∀ entry', s.ctx.Has item.msg.dbOid entry' → (s.procs.modify entry'.worker fun p =>
      { p with terminating := true })[entry.worker]? = s.procs[entry.worker]? := by
    intro entry' hhas
    refine List.getElem?_modify_ne _ _ ?_
    rw [hown entry' hhas]
    exact hne.symm
  cases h with
  | recv hlauncher hbus' hhandling =>
    obtain ⟨rfl, rfl⟩ := List.cons.inj (hbus.symm.trans hbus')
    obtain ⟨msg, sender⟩ := item
    cases hhandling with
    | @register d' entry' hentry =>
      have hnone : s.ctx.workers.lookup d' ≠ some entry := by
        rw [hwf.disjoint _ _ hentry]
        simp
      exact ⟨hpending, HashMap.lookup_insert_iff hnone (hother entry' (Or.inl hentry)), Iff.rfl,
        rfl⟩
    | shutdownRegistered hmsg hentry =>
      exact ⟨Iff.rfl, hworkers, hinsert _ hlauncher (Or.inr hentry), hmodify _ (Or.inr hentry)⟩
    | shutdownPending hmsg hnone hentry =>
      exact ⟨hpending, Iff.rfl, hinsert _ hlauncher (Or.inl hentry), hmodify _ (Or.inl hentry)⟩
    | forward hmsg hentry => exact ⟨Iff.rfl, Iff.rfl, Iff.rfl, rfl⟩
    | start hstarted hnone hnone' => exact hreport.elim
    | ignore hshut hforward hregister hstart => exact ⟨Iff.rfl, Iff.rfl, Iff.rfl, rfl⟩
  | backend hstep => cases hstep

/-- In every run in which workers are started only after their predecessors, handling a report
leaves the entries of all other workers, pending, registered, and terminated, and their processes,
as they are. The condition is enough and not exact: a predecessor that is still there does no harm
if the bus refuses its reports. -/
theorem reports_attributed {oids : List Oid} (hoids : oids.Nodup) (catalog : Oid → Catalog)
    {es : List Event} (hrun : Run.run step (init oids catalog) es = some s)
    (hok : Run.RunAll step StartSafe (init oids catalog) es) {item : Item} {rest : List Item}
    {g : ℕ} (hbus : s.bus = item :: rest) (hsender : item.sender = some g)
    {started : Option String} (hstep : step s (.recv started) = some s') (entry : WorkerEntry)
    (hne : entry.worker ≠ g) (d : Oid) :
    (s'.ctx.pending_workers.lookup d = some entry ↔ s.ctx.pending_workers.lookup d = some entry) ∧
      (s'.ctx.workers.lookup d = some entry ↔ s.ctx.workers.lookup d = some entry) ∧
      (s'.ctx.terminated_workers.lookup d = some entry ↔
        s.ctx.terminated_workers.lookup d = some entry) ∧
      s'.procs[entry.worker]? = s.procs[entry.worker]? := by
  have hkeep : ∀ s e s', WellFormed s → (Attributed s ∧ Quiet s) → StartSafe s e →
      Transition s e s' → Attributed s' ∧ Quiet s' := by
    rintro s e s' hwf ⟨hattributed, hquiet⟩ hok h
    exact ⟨attributed_step hwf hattributed hok h, quiet_step hwf hquiet h⟩
  have hinit : Attributed (init oids catalog) ∧ Quiet (init oids catalog) := by
    constructor
    · rintro d entry (hentry | hentry) <;>
        exact absurd hentry (by simp [init, LauncherContext.default])
    · intro _ d entry entry' hterminated
      exact absurd hterminated (by simp [init, LauncherContext.default])
  obtain ⟨hwf, hattributed, hquiet⟩ := invariant_of_run hkeep hoids hinit hok hrun
  exact report_step hwf hattributed hquiet hbus hsender (transition_of_step hstep) entry hne d

/-- A database with the extension and without a server. -/
def unconfigured : Catalog := { installed := true, servers := [], table := ⟨[], []⟩ }

/-- The worker finds no server, reports it, and leaves. Once both reports are handled, a server's
configuration starts its successor, whose entry the late report of another database's worker leaves
as it is. -/
theorem successor_attributed :
    ∃ s s', Run.run step (init [5, 6] fun _ => unconfigured)
        [.boot (some "db"), .boot (some "other"), .boot none, .proc 0 .check,
          .proc 0 (.report true), .proc 0 (.exit true), .ddl 5 (.create "nats" []),
          .proc 1 .check, .proc 1 (.report true), .wake, .recv none, .recv none,
          .recv (some "db")] = some s ∧
      step s (.recv none) = some s' ∧
      s'.ctx.pending_workers.lookup 5 = some ⟨"db", 5, 2⟩ := by
  obtain ⟨s, s', hrun, hstep, hbus, hpending⟩ : ∃ s s',
      Run.run step (init [5, 6] fun _ => unconfigured)
        [.boot (some "db"), .boot (some "other"), .boot none, .proc 0 .check,
          .proc 0 (.report true), .proc 0 (.exit true), .ddl 5 (.create "nats" []),
          .proc 1 .check, .proc 1 (.report true), .wake, .recv none, .recv none,
          .recv (some "db")] = some s ∧
      step s (.recv none) = some s' ∧
      s.bus = [⟨.dbExtensionStatus 6 .noForeignServer, some 1⟩] ∧
      s.ctx.pending_workers.lookup 5 = some ⟨"db", 5, 2⟩ := ⟨_, _, rfl, rfl, rfl, rfl⟩
  refine ⟨s, s', hrun, hstep, ?_⟩
  have hsame := reports_attributed (by decide : ([5, 6] : List Oid).Nodup)
    (fun _ => unconfigured) hrun (by decide) hbus rfl hstep ⟨"db", 5, 2⟩ (by decide) 5
  exact hsame.1.mpr hpending

/-- The worker of generation 0 finds no server and reports it. A server's configuration comes to the
bus between this report and that of its exit, and starts generation 1, whose pending entry the
second report takes away. -/
theorem late_exit_terminates_successor :
    ∃ s s', Run.run step (init [5] fun _ => unconfigured)
        [.boot (some "db"), .boot none, .proc 0 .check, .proc 0 (.report true),
          .ddl 5 (.create "nats" []), .proc 0 (.exit true), .wake, .recv none,
          .recv (some "db")] = some s ∧
      s.bus = [⟨.subscriberExit 5 (.ok ()), some 0⟩] ∧
      s.ctx.pending_workers.lookup 5 = some ⟨"db", 5, 1⟩ ∧
      step s (.recv none) = some s' ∧
      s'.ctx.pending_workers.lookup 5 = none ∧
      s'.ctx.terminated_workers.lookup 5 = some ⟨"db", 5, 1⟩ := by
  exact ⟨_, _, rfl, rfl, rfl, rfl, rfl, rfl⟩

end PgNats.System
