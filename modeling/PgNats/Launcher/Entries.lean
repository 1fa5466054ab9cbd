import PgNats.Launcher.Run
import Mathlib.Algebra.Order.Group.Multiset
import Mathlib.Tactic.Abel

/-!
# At most one live worker for each database

The launcher keeps a live worker in one of two maps, and its handlers look at one map at a time.
`Tracks` says why that is enough: the maps have no database in common, and each entry is under its
own database. It also keeps the balance of the workers: the entries started are those in the two
maps and those terminated. Every operation of the context keeps it, and so does every step, since
the databases that the start-up has still to do are in neither map (`Tracked`).
`one_entry_per_database` reads off what that means for a database and for a worker.
-/

namespace PgNats

/-- The context keeps track of the entries started and terminated so far. -/
structure LauncherContext.Tracks (ctx : LauncherContext) (started terminated : List WorkerEntry) :
    Prop where
  /-- A pending entry is under its own database. -/
  pending_oid : ∀ d entry, ctx.pending_workers.lookup d = some entry → entry.oid = d
  /-- A registered entry is under its own database. -/
  workers_oid : ∀ d entry, ctx.workers.lookup d = some entry → entry.oid = d
  /-- A terminated entry is under its own database. -/
  terminated_oid : ∀ d entry, ctx.terminated_workers.lookup d = some entry → entry.oid = d
  /-- A database with a pending worker has no registered one. -/
  disjoint : ∀ d entry, ctx.pending_workers.lookup d = some entry → ctx.workers.lookup d = none
  /-- The starts are numbered. -/
  numbered : started.map WorkerEntry.worker = List.range ctx.counter
  /-- The entries started are pending, registered or terminated. -/
  balance : (started : Multiset WorkerEntry) =
    ctx.pending_workers.bag + ctx.workers.bag + terminated

/-! ## The operations of the context -/

section Operations

variable {ctx : LauncherContext} {started terminated : List WorkerEntry}

/-- A pending worker is registered. -/
theorem LauncherContext.Tracks.register (h : ctx.Tracks started terminated) {d : Oid}
    {entry : WorkerEntry} (hpending : ctx.pending_workers.lookup d = some entry) :
    Tracks { ctx with
      pending_workers := ctx.pending_workers.erase d
      workers := ctx.workers.insert d entry } started terminated where
  pending_oid := fun d' entry' hd' =>
    h.pending_oid d' entry' (HashMap.lookup_erase_eq_some hd').2
  workers_oid := by
    intro d' entry' hd'
    rcases HashMap.lookup_insert_eq_some hd' with ⟨rfl, rfl⟩ | hold
    · exact h.pending_oid _ _ hpending
    · exact h.workers_oid d' entry' hold
  terminated_oid := h.terminated_oid
  disjoint := by
    intro d' entry' hd'
    obtain ⟨hne, hold⟩ := HashMap.lookup_erase_eq_some hd'
    exact (AList.lookup_insert_ne hne).trans (h.disjoint d' entry' hold)
  numbered := h.numbered
  balance := by
    -- The entry moves from one map to the other, where its database has none.
    have hworkers := h.disjoint d entry hpending
    have hbalance := h.balance
    rw [HashMap.bag_erase hpending] at hbalance
    rw [HashMap.bag_insert hworkers, hbalance, Multiset.cons_add, Multiset.add_cons]

/-- A terminated entry is kept under its own database. -/
theorem LauncherContext.Tracks.terminated_oid_insert (h : ctx.Tracks started terminated)
    (entry : WorkerEntry) {d : Oid} {entry' : WorkerEntry}
    (hlook : (ctx.terminated_workers.insert entry.oid entry).lookup d = some entry') :
    entry'.oid = d := by
  rcases HashMap.lookup_insert_eq_some hlook with ⟨rfl, rfl⟩ | hold
  · rfl
  · exact h.terminated_oid d entry' hold

/-- A registered worker is terminated. -/
theorem LauncherContext.Tracks.terminateRegistered (h : ctx.Tracks started terminated) {d : Oid}
    {entry : WorkerEntry} (hworkers : ctx.workers.lookup d = some entry) :
    Tracks { ctx with
      workers := ctx.workers.erase d
      terminated_workers := ctx.terminated_workers.insert entry.oid entry }
      started (terminated ++ [entry]) where
  pending_oid := h.pending_oid
  workers_oid := fun d' entry' hd' =>
    h.workers_oid d' entry' (HashMap.lookup_erase_eq_some hd').2
  terminated_oid := fun _ _ => h.terminated_oid_insert entry
  disjoint := by
    intro d' entry' hd'
    have hnone := h.disjoint d' entry' hd'
    have hne : d' ≠ d := by
      rintro rfl
      exact absurd (hnone.symm.trans hworkers) (by simp)
    exact (AList.lookup_erase_ne hne).trans hnone
  numbered := h.numbered
  balance := by
    have hbalance := h.balance
    rw [HashMap.bag_erase hworkers] at hbalance
    rw [hbalance, ← Multiset.coe_add, Multiset.coe_singleton, ← Multiset.singleton_add]
    abel

/-- A pending worker is terminated. -/
theorem LauncherContext.Tracks.terminatePending (h : ctx.Tracks started terminated) {d : Oid}
    {entry : WorkerEntry} (hpending : ctx.pending_workers.lookup d = some entry) :
    Tracks { ctx with
      pending_workers := ctx.pending_workers.erase d
      terminated_workers := ctx.terminated_workers.insert entry.oid entry }
      started (terminated ++ [entry]) where
  pending_oid := fun d' entry' hd' =>
    h.pending_oid d' entry' (HashMap.lookup_erase_eq_some hd').2
  workers_oid := h.workers_oid
  terminated_oid := fun _ _ => h.terminated_oid_insert entry
  disjoint := fun d' entry' hd' => h.disjoint d' entry' (HashMap.lookup_erase_eq_some hd').2
  numbered := h.numbered
  balance := by
    have hbalance := h.balance
    rw [HashMap.bag_erase hpending] at hbalance
    rw [hbalance, ← Multiset.coe_add, Multiset.coe_singleton, ← Multiset.singleton_add]
    abel

/-- A worker is started for a database without one. -/
theorem LauncherContext.Tracks.start (h : ctx.Tracks started terminated) {d : Oid}
    (hworkers : ctx.workers.lookup d = none) (hpending : ctx.pending_workers.lookup d = none)
    (db_name : String) :
    Tracks { ctx with
      counter := ctx.counter + 1
      pending_workers := ctx.pending_workers.insert d ⟨db_name, d, ctx.counter⟩ }
      (started ++ [⟨db_name, d, ctx.counter⟩]) terminated where
  pending_oid := by
    intro d' entry' hd'
    rcases HashMap.lookup_insert_eq_some hd' with ⟨rfl, rfl⟩ | hold
    · rfl
    · exact h.pending_oid d' entry' hold
  workers_oid := h.workers_oid
  terminated_oid := h.terminated_oid
  disjoint := by
    intro d' entry' hd'
    rcases HashMap.lookup_insert_eq_some hd' with ⟨rfl, rfl⟩ | hold
    · exact hworkers
    · exact h.disjoint d' entry' hold
  numbered := by
    rw [List.map_append, h.numbered, List.range_succ]
    rfl
  balance := by
    rw [HashMap.bag_insert hpending, ← Multiset.coe_add, h.balance, Multiset.coe_singleton,
      ← Multiset.singleton_add]
    abel

/-- What the loop of a shutdown leaves in a map was there, or it is one of the entries, under its
own database. -/
theorem lookup_foldl_insert {entries : List WorkerEntry} {m : HashMap Oid WorkerEntry} {d : Oid}
    {entry : WorkerEntry}
    (h : (entries.foldl (fun m entry => m.insert entry.oid entry) m).lookup d = some entry) :
    m.lookup d = some entry ∨ (entry ∈ entries ∧ entry.oid = d) := by
  induction entries generalizing m with
  | nil => exact Or.inl h
  | cons first entries ih =>
    rcases ih h with hold | ⟨hmem, hoid⟩
    · rcases HashMap.lookup_insert_eq_some hold with ⟨rfl, rfl⟩ | hold
      · exact Or.inr ⟨List.mem_cons_self, rfl⟩
      · exact Or.inl hold
    · exact Or.inr ⟨List.mem_cons_of_mem _ hmem, hoid⟩

/-- All workers are terminated. -/
theorem LauncherContext.Tracks.terminateAll (h : ctx.Tracks started terminated) :
    Tracks ctx.shutdownAllWorkers.1 started
      (terminated ++ (ctx.workers.values ++ ctx.pending_workers.values)) := by
  rw [Launcher.shutdownAllWorkers_eq]
  refine ⟨?_, ?_, ?_, ?_, h.numbered, ?_⟩
  · intro d entry hd
    exact absurd hd (by simp)
  · intro d entry hd
    exact absurd hd (by simp)
  · intro d entry hd
    rcases lookup_foldl_insert hd with hold | ⟨-, hoid⟩
    · exact h.terminated_oid d entry hold
    · exact hoid
  · intro d entry hd
    exact absurd hd (by simp)
  · have hvalues : ((ctx.workers.values ++ ctx.pending_workers.values : List WorkerEntry) :
        Multiset WorkerEntry) = ctx.workers.bag + ctx.pending_workers.bag := by
      rw [← Multiset.coe_add]
      rfl
    show (started : Multiset WorkerEntry) = 0 + 0 + _
    rw [← Multiset.coe_add, hvalues, h.balance]
    abel

/-- The terminated workers are waited for. -/
theorem LauncherContext.Tracks.processTerminatedWorkers (h : ctx.Tracks started terminated) :
    Tracks ctx.processTerminatedWorkers started terminated where
  pending_oid := h.pending_oid
  workers_oid := h.workers_oid
  terminated_oid := fun d entry hd =>
    absurd hd (by simp [LauncherContext.processTerminatedWorkers])
  disjoint := h.disjoint
  numbered := h.numbered
  balance := h.balance

end Operations

namespace Launcher

/-! ## The runs -/

/-- The invariant. -/
structure Tracked (s : Launcher) : Prop where
  /-- The context keeps track of the entries. -/
  tracks : s.ctx.Tracks s.started s.terminated
  /-- The databases that the start-up has still to do are different and have no worker. -/
  todo : ∀ oids, s.phase = .starting oids → oids.Nodup ∧ ∀ d ∈ oids, s.ctx.entry? d = none

/-- The launcher before its start-up. -/
theorem tracked_init {oids : List Oid} (hoids : oids.Nodup) : (init oids).Tracked where
  tracks := by
    refine ⟨?_, ?_, ?_, ?_, rfl, rfl⟩ <;> intro d entry hd <;>
      exact absurd hd (by simp [init, LauncherContext.default])
  todo := by
    intro oids' hphase
    obtain rfl : oids = oids' := Phase.starting.inj hphase
    exact ⟨hoids, fun d _ => rfl⟩

variable {s s' : Launcher} {e : Event}

/-- Handling a message keeps track of the entries. -/
theorem tracks_handled (hs : s.ctx.Tracks s.started s.terminated) {msg : LauncherMessage}
    {started : Option String} {delivered : Bool} {ctx : LauncherContext} {effect : Option Effect}
    (h : Handling s.ctx started msg ctx effect) {s' : Launcher}
    (hs' : s' = effect.toList.foldl (perform delivered) { s with ctx }) :
    s'.ctx.Tracks s'.started s'.terminated := by
  subst hs'
  cases h with
  | register hpending => exact hs.register hpending
  | shutdownRegistered hmsg hworkers => exact hs.terminateRegistered hworkers
  | shutdownPending hmsg hworkers hpending => exact hs.terminatePending hpending
  | forward hmsg hworkers => cases delivered <;> exact hs
  | start hstarted hworkers hpending => exact hs.start hworkers hpending _
  | ignore hshut hforward hregister hstart => exact hs

/-- Every step keeps track of the entries. -/
theorem tracked_step (hs : s.Tracked) (h : Transition s e s') : s'.Tracked := by
  obtain ⟨htracks, htodo⟩ := hs
  cases h with
  | @started oid oids db_name hphase =>
    obtain ⟨hnodup, hnone⟩ := htodo _ hphase
    obtain ⟨hnotMem, hnodup⟩ := List.nodup_cons.mp hnodup
    obtain ⟨hworkers, hpending⟩ :=
      (s.ctx.entry?_eq_none oid).mp (hnone oid List.mem_cons_self)
    refine ⟨htracks.start hworkers hpending db_name, ?_⟩
    intro oids' hstarting
    obtain rfl : oids = oids' := Phase.starting.inj hstarting
    refine ⟨hnodup, fun d hd => (LauncherContext.entry?_eq_none _ d).mpr ?_⟩
    -- The database just done is not one of the rest.
    have hne : d ≠ oid := fun heq => hnotMem (heq ▸ hd)
    obtain ⟨hworkers, hpending⟩ :=
      (s.ctx.entry?_eq_none d).mp (hnone d (List.mem_cons_of_mem _ hd))
    exact ⟨hworkers, (AList.lookup_insert_ne hne).trans hpending⟩
  | @notStarted oid oids hphase =>
    obtain ⟨hnodup, hnone⟩ := htodo _ hphase
    refine ⟨htracks, ?_⟩
    intro oids' hstarting
    obtain rfl : oids = oids' := Phase.starting.inj hstarting
    exact ⟨(List.nodup_cons.mp hnodup).2, fun d hd => hnone d (List.mem_cons_of_mem _ hd)⟩
  | booted hphase => exact ⟨htracks, fun oids h => absurd h (by simp)⟩
  | woken hphase =>
    exact ⟨htracks.processTerminatedWorkers, fun oids h => absurd h (by simp)⟩
  | stopped hphase => exact ⟨htracks.terminateAll, fun oids h => absurd h (by simp)⟩
  | @handled msg started delivered ctx effect hphase hhandling =>
    refine ⟨tracks_handled htracks hhandling rfl, fun oids h => ?_⟩
    rw [(foldl_perform delivered _ effect).1] at h
    exact absurd (hphase.symm.trans h) (by simp)
  | skipped hphase => exact ⟨htracks, htodo⟩
  | drained hphase => exact ⟨htracks, fun oids h => absurd h (by simp)⟩
  | finished hphase =>
    exact ⟨htracks.processTerminatedWorkers, fun oids h => absurd h (by simp)⟩

/-- Every reachable state keeps track of the entries. -/
theorem tracked_of_run {oids : List Oid} (hoids : oids.Nodup) {es : List Event}
    (h : Run.run step (init oids) es = some s) : s.Tracked :=
  Run.run_invariant_of_step (fun _ _ _ hs hstep => tracked_step hs (transition_of_step hstep))
    (tracked_init hoids) h

/-- Handling a message replaces no live entry by another one. -/
theorem notReplaced_handled (hs : s.ctx.Tracks s.started s.terminated) {msg : LauncherMessage}
    {started : Option String} {ctx : LauncherContext} {effect : Option Effect}
    (h : Handling s.ctx started msg ctx effect) :
    HashMap.NotReplaced s.ctx.pending_workers ctx.pending_workers ∧
      HashMap.NotReplaced s.ctx.workers ctx.workers := by
  cases h with
  | register hpending =>
    have hworkers := hs.disjoint _ _ hpending
    exact ⟨HashMap.NotReplaced.erase _ _, HashMap.NotReplaced.insert hworkers _⟩
  | shutdownRegistered hmsg hworkers =>
    exact ⟨HashMap.NotReplaced.refl _, HashMap.NotReplaced.erase _ _⟩
  | shutdownPending hmsg hworkers hpending =>
    exact ⟨HashMap.NotReplaced.erase _ _, HashMap.NotReplaced.refl _⟩
  | forward hmsg hworkers => exact ⟨HashMap.NotReplaced.refl _, HashMap.NotReplaced.refl _⟩
  | start hstarted hworkers hpending =>
    exact ⟨HashMap.NotReplaced.insert hpending _, HashMap.NotReplaced.refl _⟩
  | ignore hshut hforward hregister hstart =>
    exact ⟨HashMap.NotReplaced.refl _, HashMap.NotReplaced.refl _⟩

/-- A step replaces no live entry by another one. -/
theorem notReplaced_step (hs : s.Tracked) (h : Transition s e s') :
    HashMap.NotReplaced s.ctx.pending_workers s'.ctx.pending_workers ∧
      HashMap.NotReplaced s.ctx.workers s'.ctx.workers := by
  cases h with
  | @started oid oids db_name hphase =>
    have hnone := (hs.todo _ hphase).2 oid List.mem_cons_self
    obtain ⟨-, hpending⟩ := (s.ctx.entry?_eq_none oid).mp hnone
    exact ⟨HashMap.NotReplaced.insert hpending _, HashMap.NotReplaced.refl _⟩
  | stopped hphase =>
    rw [shutdownAllWorkers_eq]
    exact ⟨HashMap.NotReplaced.empty _, HashMap.NotReplaced.empty _⟩
  | handled hphase hhandling =>
    rw [(foldl_perform _ _ _).2]
    exact notReplaced_handled hs.tracks hhandling
  | _ => exact ⟨HashMap.NotReplaced.refl _, HashMap.NotReplaced.refl _⟩

/-- An entry that was started and not terminated is live. -/
theorem Tracked.live (hs : s.Tracked) {entry : WorkerEntry} (hstarted : entry ∈ s.started)
    (hterminated : entry ∉ s.terminated) :
    entry ∈ s.ctx.pending_workers.values ∨ entry ∈ s.ctx.workers.values := by
  have hmem : entry ∈ (s.started : Multiset WorkerEntry) := hstarted
  rw [hs.tracks.balance, Multiset.mem_add, Multiset.mem_add] at hmem
  rcases hmem with (hpending | hworkers) | hterminated'
  · exact Or.inl hpending
  · exact Or.inr hworkers
  · exact absurd hterminated' hterminated

/-- A pending entry is not registered. -/
theorem Tracked.not_both (hs : s.Tracked) {entry : WorkerEntry}
    (hpending : entry ∈ s.ctx.pending_workers.values) : entry ∉ s.ctx.workers.values := by
  intro hworkers
  obtain ⟨d, hd⟩ := HashMap.mem_values_iff.mp hpending
  obtain ⟨d', hd'⟩ := HashMap.mem_values_iff.mp hworkers
  have heq : d = d' := (hs.tracks.pending_oid d entry hd).symm.trans
    (hs.tracks.workers_oid d' entry hd')
  have hnone := hs.tracks.disjoint d entry hd
  rw [heq, hd'] at hnone
  exact absurd hnone (by simp)

/-- In every state that the launcher reaches from a start-up over different databases, no database
has both a pending and a registered worker, every entry is under its own database, and the next step
replaces no live entry by another one. So each worker that was started and not terminated is in
exactly one of the two maps. -/
theorem one_entry_per_database {oids : List Oid} (hoids : oids.Nodup) {es : List Event}
    (h : Run.run step (init oids) es = some s) :
    (∀ d ∈ s.ctx.pending_workers, d ∉ s.ctx.workers) ∧
      (∀ d entry, s.ctx.Has d entry ∨ s.ctx.terminated_workers.lookup d = some entry →
        entry.oid = d) ∧
      (∀ e s', s.step e = some s' →
        HashMap.NotReplaced s.ctx.pending_workers s'.ctx.pending_workers ∧
          HashMap.NotReplaced s.ctx.workers s'.ctx.workers) ∧
      ∀ entry ∈ s.started, entry ∉ s.terminated →
        Xor (entry ∈ s.ctx.pending_workers.values) (entry ∈ s.ctx.workers.values) := by
  have hs := tracked_of_run hoids h
  refine ⟨?_, ?_, fun e s' hstep => notReplaced_step hs (transition_of_step hstep), ?_⟩
  · intro d hpending hworkers
    obtain ⟨entry, hentry⟩ := Option.isSome_iff_exists.mp (AList.lookup_isSome.mpr hpending)
    have hnone := hs.tracks.disjoint d entry hentry
    exact AList.lookup_eq_none.mp hnone hworkers
  · rintro d entry ((hpending | hworkers) | hterminated)
    · exact hs.tracks.pending_oid d entry hpending
    · exact hs.tracks.workers_oid d entry hworkers
    · exact hs.tracks.terminated_oid d entry hterminated
  · intro entry hstarted hterminated
    rcases hs.live hstarted hterminated with hpending | hworkers
    · exact Or.inl ⟨hpending, hs.not_both hpending⟩
    · exact Or.inr ⟨hworkers, fun hpending => hs.not_both hpending hworkers⟩

/-- A start-up over two databases, where the second start fails and succeeds later, for a
configuration, once the first worker is registered. -/
def startUpOfTwo : List Event :=
  [.boot (some "a"), .boot none, .boot none, .latch true,
    .recv (some (.dbExtensionStatus 5 .exist)) none true,
    .recv (some (.newConfig 7 (validatorConfig []))) (some "b") true, .recv none none true, .empty]

/-- Both workers of the start-up are in exactly one map. -/
theorem one_entry_per_database_two : ∃ s, Run.run step (init [5, 7]) startUpOfTwo = some s ∧
    s.started = [⟨"a", 5, 0⟩, ⟨"b", 7, 1⟩] ∧
      ∀ entry ∈ s.started, entry ∉ s.terminated →
        Xor (entry ∈ s.ctx.pending_workers.values) (entry ∈ s.ctx.workers.values) := by
  have hrun : Run.run step (init [5, 7]) startUpOfTwo = some _ := rfl
  exact ⟨_, hrun, rfl, (one_entry_per_database (by decide) hrun).2.2.2⟩

end Launcher

end PgNats
