import PgNats.System.Deadlock
import PgNats.System.WellFormed

/-!
# One worker for each database

A subscriber process goes on beside the launcher until the launcher sends it `SIGTERM`, and for a
while after that, so that a process and its successor may run at the same time. But the launcher has
an entry, pending or registered, for exactly the processes that it has not terminated (`Entered`).
As no database has two entries, at most one process of a database is not on its way out
(`one_worker`), and only that one is sent messages.
-/

namespace PgNats

/-- A message that shuts its database down terminates the entry of the database, if it has one. -/
theorem Handling.of_shutsDown {ctx ctx' : LauncherContext} {started : Option String}
    {msg : LauncherMessage} {effect : Option Effect} (h : Handling ctx started msg ctx' effect)
    (hshut : msg.ShutsDown) {entry : WorkerEntry} (hentry : ctx.entry? msg.dbOid = some entry) :
    effect = some (.terminate entry) ∧
      ctx'.terminated_workers = ctx.terminated_workers.insert entry.oid entry := by
  cases h with
  | register hpending => exact absurd rfl hshut
  | shutdownRegistered hmsg hworkers =>
    unfold LauncherContext.entry? at hentry
    rw [hworkers] at hentry
    obtain rfl := Option.some.inj hentry
    exact ⟨rfl, rfl⟩
  | shutdownPending hmsg hworkers hpending =>
    unfold LauncherContext.entry? at hentry
    rw [hworkers, hpending] at hentry
    obtain rfl := Option.some.inj hentry
    exact ⟨rfl, rfl⟩
  | forward hmsg hworkers => rw [hshut.forward?_eq_none] at hmsg; cases hmsg
  | start hstarted hworkers hpending => exact hshut.elim
  | ignore hshut' hforward hregister hstart =>
    exact absurd (hentry.symm.trans (hshut' hshut)) (by simp)

namespace System

variable {s s' : System} {e : Event}

/-- The launcher has an entry for a process exactly when it has not terminated it. -/
def Entered (s : System) : Prop := ∀ (g : ℕ) (p : Proc), s.procs[g]? = some p →
  (p.terminating = false ↔ ∃ entry, s.ctx.Has p.db entry ∧ entry.worker = g)

/-- A database has one entry. -/
theorem WellFormed.entry_unique (hwf : s.WellFormed) {d : Oid} {entry entry' : WorkerEntry}
    (hhas : s.ctx.Has d entry) (hhas' : s.ctx.Has d entry') : entry = entry' :=
  Option.some.inj ((hwf.entry?_eq hhas).symm.trans (hwf.entry?_eq hhas'))

/-- A message that shuts a database down terminates the worker of its entry. -/
theorem terminating_of_shutdown (hwf : s.WellFormed) {started : Option String}
    (h : Transition s (.recv started) s') {item : Item} (hbus : s.bus = item :: s'.bus)
    (hshut : item.msg.ShutsDown) {entry : WorkerEntry} (hhas : s.ctx.Has item.msg.dbOid entry)
    {p' : Proc} (hproc' : s'.procs[entry.worker]? = some p') : p'.terminating = true := by
  cases h with
  | @recv item' rest _ ctx effect hlauncher hbus' hhandling =>
    obtain ⟨rfl, -⟩ := List.cons.inj (hbus.symm.trans hbus')
    obtain ⟨rfl, -⟩ := hhandling.of_shutsDown hshut (hwf.entry?_eq hhas)
    have hmodified : (s.procs.modify entry.worker fun p =>
        { p with terminating := true })[entry.worker]? = some p' := hproc'
    rw [List.getElem?_modify_eq] at hmodified
    obtain ⟨p, -, rfl⟩ := Option.map_eq_some_iff.mp hmodified
    rfl
  | backend hstep => cases hstep

/-- A process that is not terminated after a step was not terminated before it. -/
theorem not_terminating_before (hwf : s.WellFormed) (h : Transition s e s') {g : ℕ} {p p' : Proc}
    (hproc' : s'.procs[g]? = some p') (hchange : ProcChange s e s' g p p')
    (hlive : p'.terminating = false) : p.terminating = false := by
  cases hchange with
  | same terminating hterminating hother =>
    rcases hterminating with rfl | ⟨started, item, rest, entry, rfl, hbus, hshut, hhas, rfl⟩
    · exact hlive
    · have hbus' : s.bus = item :: s'.bus := by
        rcases bus_of_step h with ⟨_, item', effect, -, -, hbus', -⟩ | ⟨news, -, -, -, hnot⟩
        · obtain ⟨rfl, -⟩ := List.cons.inj (hbus.symm.trans hbus')
          exact hbus'
        · exact absurd rfl (hnot started)
      have hgone := terminating_of_shutdown hwf h hbus' hshut hhas hproc'
      exact absurd (hlive.symm.trans hgone) Bool.false_ne_true
  | received he hlauncher hlauncher' hpc => exact hlive
  | moved he hlock hstep hs' => exact hlive

/-- The process of an entry that stays is not terminated by the step. -/
theorem not_terminating_after (hwf : s.WellFormed) (h : Transition s e s') {p p' : Proc}
    {entry : WorkerEntry} (hhas : s.ctx.Has p.db entry) (hhas' : s'.ctx.Has p.db entry)
    (hchange : ProcChange s e s' entry.worker p p') (hlive : p.terminating = false) :
    p'.terminating = false := by
  cases hchange with
  | same terminating hterminating hother =>
    rcases hterminating with rfl | ⟨started, item, rest, entry', rfl, hbus, hshut, hhas'', hg⟩
    · exact hlive
    -- The entry of a worker that is terminated is gone.
    · have hd : item.msg.dbOid = p.db := hwf.worker_inj hhas'' hhas hg
      rcases bus_of_step h with ⟨_, item', effect, -, -, hbus', -, -, hhandling, -⟩ |
          ⟨news, -, -, -, hnot⟩
      · obtain ⟨rfl, -⟩ := List.cons.inj (hbus.symm.trans hbus')
        exact absurd (hd ▸ hhas') (hhandling.not_has hshut (hwf.disjoint _) entry)
      · exact absurd rfl (hnot started)
  | received he hlauncher hlauncher' hpc => exact hlive
  | moved he hlock hstep hs' => exact hlive

/-- Every step keeps the entries in line with the processes. -/
theorem entered_step (hwf : s.WellFormed) (hs : s.Entered) (h : Transition s e s') :
    s'.Entered := by
  intro g p' hproc'
  rcases proc_before h hproc' with ⟨p, hproc, hchange⟩ | ⟨d, db_name, hstart, rfl, rfl⟩
  · have hdb : p'.db = p.db := by cases hchange <;> rfl
    rw [hdb]
    constructor
    · intro hlive
      have hbefore := not_terminating_before hwf h hproc' hchange hlive
      obtain ⟨entry, hhas, rfl⟩ := (hs g p hproc).mp hbefore
      rcases has_after hwf h hhas with hafter | ⟨started, item, rfl, hbus, hshut, hd⟩
      · exact ⟨entry, hafter, rfl⟩
      · have hgone := terminating_of_shutdown hwf h hbus hshut (hd ▸ hhas) hproc'
        exact absurd (hlive.symm.trans hgone) Bool.false_ne_true
    · rintro ⟨entry, hhas', rfl⟩
      rcases has_of_step hwf h hhas' with hhas | ⟨db_name, hstart, rfl⟩
      · have hbefore := (hs entry.worker p hproc).mpr ⟨entry, hhas, rfl⟩
        exact not_terminating_after hwf h hhas hhas' hchange hbefore
      -- The process of a new entry was not there before.
      · have hlt := (List.getElem?_eq_some_iff.mp hproc).1
        exact absurd hlt (lt_irrefl _)
  · refine iff_of_true rfl ⟨⟨db_name, d, s.ctx.counter⟩, Or.inl ?_, hwf.counter⟩
    rw [hstart.ctx]
    exact AList.lookup_insert _

/-- In every reachable state, whatever the interleaving and the failures, the launcher has an entry
for exactly the processes that it has not told to terminate. There is at most one of them for each
database, and a message on its way to a process is on its way to one of them. -/
theorem one_worker {oids : List Oid} (hoids : oids.Nodup) {catalog : Oid → Catalog}
    {es : List Event} (hrun : Run.run step (init oids catalog) es = some s) :
    (∀ (g : ℕ) (p : Proc), s.procs[g]? = some p →
      (p.terminating = false ↔ ∃ entry, s.ctx.Has p.db entry ∧ entry.worker = g)) ∧
    (∀ (g g' : ℕ) (p p' : Proc), s.procs[g]? = some p → s.procs[g']? = some p' → p.db = p'.db →
      p.terminating = false → p'.terminating = false → g = g') ∧
    ∀ (g : ℕ) (msg : SubscriberMessage), s.launcher = .sending g msg →
      ∃ p, s.procs[g]? = some p ∧ p.terminating = false := by
  have hkeep : ∀ s e s', WellFormed s → Entered s → True → Transition s e s' → Entered s' :=
    fun s e s' hwf hs _ h => entered_step hwf hs h
  have hinit : (init oids catalog).Entered := fun g p hproc => by cases hproc
  obtain ⟨hwf, h⟩ := invariant_of_run hkeep hoids hinit
    (Run.RunAll.of_forall_mem fun _ _ => trivial) hrun
  refine ⟨h, ?_, ?_⟩
  · intro g g' p p' hproc hproc' hdb hlive hlive'
    obtain ⟨entry, hhas, rfl⟩ := (h g p hproc).mp hlive
    obtain ⟨entry', hhas', rfl⟩ := (h g' p' hproc').mp hlive'
    -- Both are the worker of the one entry of their database.
    rw [hwf.entry_unique hhas (hdb ▸ hhas')]
  · intro g msg hlauncher
    obtain ⟨d, entry, hworkers, rfl⟩ := hwf.sending g msg hlauncher
    obtain ⟨p, hproc, rfl⟩ := (hwf.entries d entry (Or.inr hworkers)).2
    exact ⟨p, hproc, (h _ p hproc).mpr ⟨entry, Or.inr hworkers, rfl⟩⟩

/-- The first worker cannot connect and reports its exit, and a statement starts a second one. -/
def secondWorker : List Event := [
  .boot (some "db"), .boot none, .proc 0 .check, .proc 0 (.report true), .proc 0 .fetch,
  .proc 0 (.fail "connection refused"), .proc 0 (.exit true), .wake, .recv none, .recv none,
  .unlock, .ddl 5 (.alter "nats" []), .wake, .recv (some "db")]

/-- Of the two processes, the second is not terminated, and has the entry. -/
theorem one_worker_second :
    ∃ s p, Run.run step (init [5] fun _ => configured) secondWorker = some s ∧
      s.procs.map Proc.terminating = [true, false] ∧ s.procs[1]? = some p ∧
      ∃ entry, s.ctx.Has p.db entry ∧ entry.worker = 1 := by
  obtain ⟨s, p, hrun, hterminating, hproc, hlive⟩ : ∃ s p,
      Run.run step (init [5] fun _ => configured) secondWorker = some s ∧
      s.procs.map Proc.terminating = [true, false] ∧ s.procs[1]? = some p ∧
      p.terminating = false := ⟨_, _, rfl, rfl, rfl, rfl⟩
  have hentered := (one_worker (by decide : ([5] : List Oid).Nodup) hrun).1 1 p hproc
  exact ⟨s, p, hrun, hterminating, hproc, hentered.mp hlive⟩

end System

end PgNats
