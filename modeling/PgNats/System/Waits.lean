import PgNats.System.Reports
import PgNats.System.Workers

/-!
# The wait for the terminated workers

Before each drain the launcher waits for the workers that it has terminated, so that none of them
runs beside its successor for longer than a drain. It looks for them in `terminated_workers`, which
has one entry for each database. A drain that shuts two workers of a database down loses the first
of them, and then the launcher does not wait for it (`two_running`).

`awaited_iff` says that this is the only way. As long as no shutdown loses the entry of a worker
that still runs, every terminated worker is gone or will be waited for, and right after a wait, at
most one process of each database runs.
-/

namespace PgNats.System

variable {s s' : System} {e : Event}

/-- Every process that was told to terminate is gone, or the launcher will wait for it. -/
def Awaited (s : System) : Prop :=
  ∀ (g : ℕ) (p : Proc), s.procs[g]? = some p → p.terminating = true →
    s.Gone g ∨ ∃ entry, s.ctx.terminated_workers.lookup p.db = some entry ∧ entry.worker = g

/-- At most one process of each database runs. -/
def OneRunning (s : System) : Prop :=
  ∀ (g g' : ℕ) (p p' : Proc), s.procs[g]? = some p → s.procs[g']? = some p' → p.db = p'.db →
    ¬ s.Gone g → ¬ s.Gone g' → g = g'

/-- The condition on a step. A message that shuts a worker down finds no terminated worker of the
same database that still runs. -/
def WaitSafe (s : System) : Event → Prop
  | .recv _ => ∀ item ∈ s.bus.head?, item.msg.ShutsDown → s.ctx.entry? item.msg.dbOid ≠ none →
      ∀ entry ∈ s.ctx.terminated_workers.lookup item.msg.dbOid, s.Gone entry.worker
  | _ => True

instance (s : System) : ∀ e, Decidable (s.WaitSafe e) := Event.Decisions.decidable {
  recv := fun _ => inferInstanceAs (Decidable (∀ item ∈ s.bus.head?, _)) }

/-- The worker of a terminated entry has no other entry. -/
def Retired (s : System) : Prop :=
  ∀ d entry d' entry', s.ctx.terminated_workers.lookup d = some entry → s.ctx.Has d' entry' →
    entry'.worker ≠ entry.worker

/-- Every step keeps the workers of terminated entries retired. -/
theorem retired_step (hwf : s.WellFormed) (hs : s.Retired) (h : Transition s e s') :
    s'.Retired := by
  intro d entry d' entry' hterminated hhas' hworker
  rcases terminated_of_step hwf h hterminated with hold | ⟨hhas, hnone⟩
  · rcases has_of_step hwf h hhas' with hhas | ⟨db_name, hstart, rfl⟩
    · exact hs d entry d' entry' hold hhas hworker
    -- The number of a new worker is that of no process before.
    · obtain ⟨p, hproc, -⟩ := hworker ▸ hwf.terminated d entry hold
      exact lt_irrefl _ (List.getElem?_eq_some_iff.mp hproc).1
  -- The entry was taken away, and with it the only one of its worker.
  · have hwf' := wellFormed_step hwf h
    have hproc := (hwf.entries d entry hhas).2.step h
    obtain rfl := (hworker ▸ (hwf'.entries d' entry' hhas').2).unique hproc
    exact hnone entry' hhas'

/-- A message that shuts a database down moves its entry to the terminated ones. -/
theorem terminated_of_shutdown (hwf : s.WellFormed) {started : Option String}
    (h : Transition s (.recv started) s') {item : Item} {rest : List Item}
    (hbus : s.bus = item :: rest) (hshut : item.msg.ShutsDown) {entry : WorkerEntry}
    (hhas : s.ctx.Has item.msg.dbOid entry) :
    s'.ctx.terminated_workers.lookup item.msg.dbOid = some entry ∧
      ∀ entry', ¬ s'.ctx.Has item.msg.dbOid entry' := by
  cases h with
  | @recv item' rest' _ ctx effect hlauncher hbus' hhandling =>
    obtain ⟨rfl, -⟩ := List.cons.inj (hbus.symm.trans hbus')
    obtain ⟨-, hterminated⟩ := hhandling.of_shutsDown hshut (hwf.entry?_eq hhas)
    refine ⟨?_, hhandling.not_has hshut (hwf.disjoint _)⟩
    have hinsert : ctx.terminated_workers.lookup item.msg.dbOid = some entry := by
      rw [hterminated, (hwf.entries _ entry hhas).1]
      exact AList.lookup_insert _
    exact hinsert
  | backend hstep => cases hstep

/-- A step that meets the condition waits for a terminated worker, or leaves its entry, or loses it
when the worker is gone. -/
theorem awaited_after (hwf : s.WellFormed) (hok : s.WaitSafe e) (h : Transition s e s') {d : Oid}
    {entry : WorkerEntry} (hterminated : s.ctx.terminated_workers.lookup d = some entry) :
    s'.Gone entry.worker ∨ s'.ctx.terminated_workers.lookup d = some entry := by
  have htransition := h
  cases h with
  | wake hlauncher hgone => exact Or.inl ((hgone d entry hterminated).step htransition)
  | @recv item rest started ctx effect hlauncher hbus hhandling =>
    have hinsert : ∀ entry', item.msg.ShutsDown → s.ctx.Has item.msg.dbOid entry' →
        ((s.taking item rest ctx).perform effect).Gone entry.worker ∨
          (s.ctx.terminated_workers.insert entry'.oid entry').lookup d = some entry := by
      intro entry' hshut hhas
      rw [(hwf.entries _ entry' hhas).1]
      rcases eq_or_ne d item.msg.dbOid with rfl | hne
      · have hnone : s.ctx.entry? item.msg.dbOid ≠ none := by simp [hwf.entry?_eq hhas]
        have hgone := hok item (by rw [hbus]; rfl) hshut hnone entry hterminated
        exact Or.inl (hgone.step htransition)
      · exact Or.inr ((AList.lookup_insert_ne hne).trans hterminated)
    obtain ⟨msg, sender⟩ := item
    cases hhandling with
    | shutdownRegistered hmsg hworkers => exact hinsert _ hmsg (Or.inr hworkers)
    | shutdownPending hmsg hworkers hpending => exact hinsert _ hmsg (Or.inl hpending)
    | _ => exact Or.inr hterminated
  | backend hstep =>
    obtain ⟨-, hctx, -⟩ := hstep.frame
    exact Or.inr (hctx ▸ hterminated)
  | _ => exact Or.inr hterminated

/-- A step that meets the condition keeps every terminated process gone or awaited. -/
theorem awaited_step (hwf : s.WellFormed) (hentered : s.Entered) (hs : s.Awaited)
    (hok : s.WaitSafe e) (h : Transition s e s') : s'.Awaited := by
  intro g p' hproc' hterminating'
  have hentered' := entered_step hwf hentered h
  rcases proc_before h hproc' with ⟨p, hproc, hchange⟩ | ⟨d, db_name, -, -, rfl⟩
  · have hdb : p'.db = p.db := by cases hchange <;> rfl
    rw [hdb]
    by_cases hterminating : p.terminating = true
    · rcases hs g p hproc hterminating with hgone | ⟨entry, hterminated, rfl⟩
      · exact Or.inl (hgone.step h)
      · rcases awaited_after hwf hok h hterminated with hgone | hafter
        · exact Or.inl hgone
        · exact Or.inr ⟨entry, hafter, rfl⟩
    -- The step terminates the process, so its entry is a terminated one now.
    · obtain ⟨entry, hhas, rfl⟩ := (hentered g p hproc).mp (by simpa using hterminating)
      rcases has_after hwf h hhas with hafter | ⟨started, item, rfl, hbus, hshut, hd⟩
      · have hlive := (hentered' _ p' hproc').mpr ⟨entry, hdb ▸ hafter, rfl⟩
        exact absurd (hlive.symm.trans hterminating') Bool.false_ne_true
      · have hterminated := (terminated_of_shutdown hwf h hbus hshut (hd ▸ hhas)).1
        exact Or.inr ⟨entry, hd ▸ hterminated, rfl⟩
  · cases hterminating'

/-- What the launcher takes off the bus leaves the processes where they are. -/
theorem gone_of_recv {started : Option String} (h : Transition s (.recv started) s') {g : ℕ}
    (hgone : s'.Gone g) : s.Gone g := by
  obtain ⟨p', attached, hproc', hpc'⟩ := hgone
  rcases proc_before h hproc' with ⟨p, hproc, hchange⟩ | ⟨d, db_name, -, -, rfl⟩
  · cases hchange with
    | same terminating hterminating hother => exact ⟨p, attached, hproc, hpc'⟩
    | received he hlauncher hlauncher' hpc => cases he
    | moved he hlock hstep hs' => cases he
  · cases hpc'

/-- A step that breaks the condition leaves a terminated process that runs and is not awaited. -/
theorem not_awaited_step (hwf : s.WellFormed) (hentered : s.Entered) (hretired : s.Retired)
    (hbad : ¬ s.WaitSafe e) (h : Transition s e s') : ¬ s'.Awaited := by
  intro hawaited
  cases e with
  | recv started =>
    unfold WaitSafe at hbad
    push Not at hbad
    obtain ⟨item, hhead, hshut, hentry, old, hold, hrunning⟩ := hbad
    obtain ⟨rest, hbus⟩ := List.head?_eq_some_iff.mp hhead
    obtain ⟨entry, hlive⟩ := Option.ne_none_iff_exists'.mp hentry
    have hhas := LauncherContext.has_of_entry? hlive
    obtain ⟨hterminated, hnone⟩ := terminated_of_shutdown hwf h hbus hshut hhas
    obtain ⟨p', hproc', hdb⟩ := (hwf.terminated _ old hold).step h
    -- The database has no entry any more, so all its processes are told to terminate.
    have hterminating : p'.terminating = true := by
      by_contra hlive'
      obtain ⟨entry', hhas', -⟩ :=
        (entered_step hwf hentered h _ p' hproc').mp (by simpa using hlive')
      exact hnone entry' (hdb ▸ hhas')
    rcases hawaited _ p' hproc' hterminating with hgone | ⟨entry', hentry', hworker⟩
    · exact hrunning (gone_of_recv h hgone)
    · obtain rfl := Option.some.inj (hterminated.symm.trans (hdb ▸ hentry'))
      exact hretired _ old _ _ hold hhas hworker
  | _ => exact hbad trivial

/-- When no worker is awaited, the processes that run have the entries of their databases. -/
theorem Awaited.oneRunning (hwf : s.WellFormed) (hentered : s.Entered) (hs : s.Awaited)
    (hempty : s.ctx.terminated_workers = ∅) : s.OneRunning := by
  have hlive : ∀ g p, s.procs[g]? = some p → ¬ s.Gone g → p.terminating = false := by
    intro g p hproc hrunning
    by_contra hterminating
    rcases hs g p hproc (by simpa using hterminating) with hgone | ⟨entry, hentry, -⟩
    · exact hrunning hgone
    · rw [hempty] at hentry
      cases hentry
  intro g g' p p' hproc hproc' hdb hrunning hrunning'
  obtain ⟨entry, hhas, rfl⟩ := (hentered g p hproc).mp (hlive g p hproc hrunning)
  obtain ⟨entry', hhas', rfl⟩ := (hentered g' p' hproc').mp (hlive g' p' hproc' hrunning')
  rw [hwf.entry_unique hhas (hdb ▸ hhas')]

/-- The statements that create a server are rolled back, but their configurations start workers,
which find no server. A drain handles the second worker's status, a configuration, and the first
worker's exit, which shuts the third worker down. -/
def entryLost : List Event := [
  .boot (some "db"), .boot none, .proc 0 .check, .proc 0 (.report true),
  .ddl 5 (.create "nats" []), .rollback 0, .wake, .recv none, .recv (some "db"), .unlock,
  .proc 1 .check, .proc 1 (.report true), .ddl 5 (.create "nats" []), .rollback 1,
  .proc 0 (.exit true), .wake, .recv none, .recv (some "db"), .recv none, .unlock,
  .proc 2 .abandon, .ddl 5 (.create "nats" []), .wake, .recv (some "db")]

/-- The launcher has waited for the third worker, but not for the second, which runs beside the
fourth. -/
theorem two_running : ∃ s, Run.run step (init [5] fun _ => unconfigured) entryLost = some s ∧
    s.ctx.terminated_workers = ∅ ∧ ¬ s.OneRunning := by
  refine ⟨_, rfl, rfl, fun hone => ?_⟩
  have heq := hone 1 3 _ _ rfl rfl rfl (by decide) (by decide)
  exact absurd heq (by decide)

end PgNats.System
