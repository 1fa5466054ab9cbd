import PgNats.Launcher.Entries

/-!
# What becomes of a started worker

A worker that is shut down is terminated at once and waited for later, by the next round of the main
loop or at the end. Until then its entry is in `terminated_workers`, under its database. A database
can be shut down, get a new worker, and be shut down again before that, and then the second entry
replaces the first, which nobody waits for.

`accounted_iff` says that nothing else goes wrong: a run shuts no database down that still has a
terminated entry exactly when, at all times, the entries started are those in the three maps and
those waited for, and at the end each of them was terminated once and waited for once. The invariant
is `Settled`.
-/

namespace PgNats.Launcher

/-- No started worker is forgotten. -/
def Accounted (s : Launcher) : Prop :=
  (s.started : Multiset WorkerEntry) = s.ctx.pending_workers.bag + s.ctx.workers.bag +
      s.ctx.terminated_workers.bag + s.waited ∧
    (s.phase = .exited →
      ∀ entry ∈ s.started, s.terminated.count entry = 1 ∧ s.waited.count entry = 1)

/-- The condition on a step. No message shuts down a database that has a terminated entry besides
the live one, and at the end of the launcher there is no such database. -/
def ShutdownSafe (s : Launcher) : Event → Prop
  | .recv (some msg) _ _ => msg.ShutsDown → s.ctx.entry? msg.dbOid ≠ none →
      s.ctx.terminated_workers.lookup msg.dbOid = none
  | .latch false => ∀ d ∈ s.ctx.terminated_workers.keys, s.ctx.entry? d = none
  | _ => True

instance (s : Launcher) : ∀ e, Decidable (s.ShutdownSafe e)
  | .recv (some msg) _ _ => inferInstanceAs (Decidable (msg.ShutsDown →
      s.ctx.entry? msg.dbOid ≠ none → s.ctx.terminated_workers.lookup msg.dbOid = none))
  | .latch false => List.decidableBAll (s.ctx.entry? · = none) s.ctx.terminated_workers.keys
  | .recv none _ _ | .latch true | .boot _ | .empty | .finish => .isTrue trivial

/-- The invariant of the runs that meet the condition. -/
structure Settled (s : Launcher) : Prop where
  /-- The context keeps track of the entries. -/
  tracked : s.Tracked
  /-- The entries terminated are to be waited for or were waited for. -/
  balance : (s.terminated : Multiset WorkerEntry) = s.ctx.terminated_workers.bag + s.waited
  /-- At the end no worker is live. -/
  stopped : s.phase = .stopping ∨ s.phase = .exited →
    s.ctx.pending_workers.bag = 0 ∧ s.ctx.workers.bag = 0
  /-- After the end no worker is to be waited for. -/
  exited : s.phase = .exited → s.ctx.terminated_workers.bag = 0

/-! ## Filing the entries of a map -/

/-- Entries of different databases are all added to a map that has none of the databases. -/
theorem bag_foldl_insert {entries : List WorkerEntry} {m : HashMap Oid WorkerEntry}
    (hnodup : (entries.map WorkerEntry.oid).Nodup)
    (hnone : ∀ entry ∈ entries, m.lookup entry.oid = none) :
    HashMap.bag (entries.foldl (fun m entry => m.insert entry.oid entry) m) =
      m.bag + entries := by
  induction entries generalizing m with
  | nil => rw [Multiset.coe_nil, add_zero]; rfl
  | cons entry entries ih =>
    obtain ⟨hnotMem, hnodup⟩ := List.nodup_cons.mp hnodup
    have hrest : ∀ entry' ∈ entries, (m.insert entry.oid entry).lookup entry'.oid = none := by
      intro entry' hmem
      have hne : entry'.oid ≠ entry.oid :=
        fun heq => hnotMem (heq ▸ List.mem_map_of_mem hmem)
      exact (AList.lookup_insert_ne hne).trans (hnone entry' (List.mem_cons_of_mem _ hmem))
    have hentry := hnone entry List.mem_cons_self
    rw [List.foldl_cons, ih hnodup hrest, HashMap.bag_insert hentry, ← Multiset.cons_coe,
      Multiset.cons_add, Multiset.add_cons]

/-- An insertion adds at most one value. -/
theorem card_bag_insert (m : HashMap Oid WorkerEntry) (entry : WorkerEntry) :
    (HashMap.bag (m.insert entry.oid entry)).card ≤ m.bag.card + 1 := by
  cases hlookup : m.lookup entry.oid with
  | none => rw [HashMap.bag_insert hlookup, Multiset.card_cons]
  | some old =>
    have hcard := congrArg Multiset.card (HashMap.bag_insert_of_lookup hlookup entry)
    rw [Multiset.card_cons, Multiset.card_cons] at hcard
    omega

/-- Filing entries adds at most as many values. -/
theorem card_bag_foldl_insert (entries : List WorkerEntry) (m : HashMap Oid WorkerEntry) :
    (HashMap.bag (entries.foldl (fun m entry => m.insert entry.oid entry) m)).card ≤
      m.bag.card + entries.length := by
  induction entries generalizing m with
  | nil => exact le_rfl
  | cons entry entries ih =>
    have hfirst := card_bag_insert m entry
    have hrest := ih (m.insert entry.oid entry)
    rw [List.foldl_cons, List.length_cons]
    omega

/-- Filing an entry under a database that is there loses a value. -/
theorem card_bag_foldl_insert_lt {entries : List WorkerEntry} {m : HashMap Oid WorkerEntry}
    {entry : WorkerEntry} (hmem : entry ∈ entries) (hthere : m.lookup entry.oid ≠ none) :
    (HashMap.bag (entries.foldl (fun m entry => m.insert entry.oid entry) m)).card <
      m.bag.card + entries.length := by
  induction entries generalizing m with
  | nil => exact absurd hmem (by simp)
  | cons first entries ih =>
    rw [List.foldl_cons, List.length_cons]
    rcases List.mem_cons.mp hmem with rfl | hmem
    · obtain ⟨old, hold⟩ := Option.ne_none_iff_exists'.mp hthere
      have hcard := congrArg Multiset.card (HashMap.bag_insert_of_lookup hold entry)
      have hrest := card_bag_foldl_insert entries (m.insert entry.oid entry)
      rw [Multiset.card_cons, Multiset.card_cons] at hcard
      omega
    · have hstill : (m.insert first.oid first).lookup entry.oid ≠ none := by
        rcases eq_or_ne entry.oid first.oid with heq | hne
        · rw [heq, AList.lookup_insert]
          simp
        · rwa [AList.lookup_insert_ne hne]
      have hfirst := card_bag_insert m first
      have hrest := ih hmem hstill
      omega

/-- The databases of the entries of a map are its keys, when each is under its own. -/
theorem map_oid_values {m : HashMap Oid WorkerEntry}
    (hoid : ∀ d entry, m.lookup d = some entry → entry.oid = d) :
    m.values.map WorkerEntry.oid = m.keys := by
  unfold HashMap.values AList.keys List.keys
  rw [List.map_map]
  refine List.map_congr_left fun e hmem => ?_
  exact hoid e.1 e.2 (AList.mem_lookup_iff.mpr hmem)

variable {s s' : Launcher} {e : Event}

/-- The live entries are of different databases. -/
theorem Tracked.nodup_oid (hs : s.Tracked) :
    ((s.ctx.workers.values ++ s.ctx.pending_workers.values).map WorkerEntry.oid).Nodup := by
  rw [List.map_append, map_oid_values hs.tracks.workers_oid, map_oid_values hs.tracks.pending_oid,
    List.nodup_append]
  refine ⟨s.ctx.workers.keys_nodup, s.ctx.pending_workers.keys_nodup, ?_⟩
  rintro d hworkers d' hpending rfl
  obtain ⟨entry, hentry⟩ := Option.isSome_iff_exists.mp (AList.lookup_isSome.mpr hpending)
  exact AList.lookup_eq_none.mp (hs.tracks.disjoint d entry hentry) hworkers

/-- The live entries are those that a shutdown of their database finds. -/
theorem Tracked.entry?_of_mem (hs : s.Tracked) {entry : WorkerEntry}
    (hmem : entry ∈ s.ctx.workers.values ++ s.ctx.pending_workers.values) :
    s.ctx.entry? entry.oid ≠ none := by
  intro hnone
  obtain ⟨hworkers, hpending⟩ := (s.ctx.entry?_eq_none entry.oid).mp hnone
  rcases List.mem_append.mp hmem with hmem | hmem
  · obtain ⟨d, hd⟩ := HashMap.mem_values_iff.mp hmem
    obtain rfl := hs.tracks.workers_oid d entry hd
    exact absurd (hworkers.symm.trans hd) (by simp)
  · obtain ⟨d, hd⟩ := HashMap.mem_values_iff.mp hmem
    obtain rfl := hs.tracks.pending_oid d entry hd
    exact absurd (hpending.symm.trans hd) (by simp)

/-! ## The steps -/

/-- A shutdown adds its entry to those to be waited for, when the database has none there. -/
theorem balance_terminate {m : HashMap Oid WorkerEntry} {entry : WorkerEntry}
    {terminated waited : List WorkerEntry} (hnone : m.lookup entry.oid = none)
    (hbalance : (terminated : Multiset WorkerEntry) = m.bag + waited) :
    ((terminated ++ [entry] : List WorkerEntry) : Multiset WorkerEntry) =
      HashMap.bag (m.insert entry.oid entry) + waited := by
  rw [HashMap.bag_insert hnone, ← Multiset.coe_add, hbalance, Multiset.coe_singleton,
    ← Multiset.singleton_add]
  abel

/-- Handling a message that meets the condition keeps the balance of the terminated entries. -/
theorem balance_handled (hs : s.Settled) {msg : LauncherMessage} {started : Option String}
    {delivered : Bool} {ctx : LauncherContext} {effect : Option Effect}
    (hok : msg.ShutsDown → s.ctx.entry? msg.dbOid ≠ none →
      s.ctx.terminated_workers.lookup msg.dbOid = none)
    (h : Handling s.ctx started msg ctx effect)
    (hs' : s' = effect.toList.foldl (perform delivered) { s with ctx }) :
    (s'.terminated : Multiset WorkerEntry) = s'.ctx.terminated_workers.bag + s'.waited := by
  subst hs'
  cases h with
  | register hpending => exact hs.balance
  | shutdownRegistered hmsg hworkers =>
    have hoid := hs.tracked.tracks.workers_oid _ _ hworkers
    have hentry : s.ctx.entry? msg.dbOid ≠ none := by
      intro hnone
      exact absurd (((s.ctx.entry?_eq_none _).mp hnone).1.symm.trans hworkers) (by simp)
    exact balance_terminate (hoid ▸ hok hmsg hentry) hs.balance
  | shutdownPending hmsg hworkers hpending =>
    have hoid := hs.tracked.tracks.pending_oid _ _ hpending
    have hentry : s.ctx.entry? msg.dbOid ≠ none := by
      intro hnone
      exact absurd (((s.ctx.entry?_eq_none _).mp hnone).2.symm.trans hpending) (by simp)
    exact balance_terminate (hoid ▸ hok hmsg hentry) hs.balance
  | forward hmsg hworkers => cases delivered <;> exact hs.balance
  | start hstarted hworkers hpending => exact hs.balance
  | ignore hshut hforward hregister hstart => exact hs.balance

/-- When no database has both a live entry and one to be waited for, a live entry's has none. -/
theorem Settled.lookup_terminated (hs : s.Settled)
    (hok : ∀ d ∈ s.ctx.terminated_workers.keys, s.ctx.entry? d = none) {entry : WorkerEntry}
    (hmem : entry ∈ s.ctx.workers.values ++ s.ctx.pending_workers.values) :
    s.ctx.terminated_workers.lookup entry.oid = none := by
  by_contra hthere
  have hkey : entry.oid ∈ s.ctx.terminated_workers.keys := by
    by_contra hkey
    exact hthere (AList.lookup_eq_none.mpr hkey)
  exact hs.tracked.entry?_of_mem hmem (hok _ hkey)

/-- At the end all live entries are added to those to be waited for, when none of their databases
has one there. -/
theorem balance_stopped (hs : s.Settled)
    (hok : ∀ d ∈ s.ctx.terminated_workers.keys, s.ctx.entry? d = none) :
    ((s.terminated ++ (s.ctx.workers.values ++ s.ctx.pending_workers.values) :
      List WorkerEntry) : Multiset WorkerEntry) =
        s.ctx.shutdownAllWorkers.1.terminated_workers.bag + s.waited := by
  have hnone : ∀ entry ∈ s.ctx.workers.values ++ s.ctx.pending_workers.values,
      s.ctx.terminated_workers.lookup entry.oid = none :=
    fun entry hmem => hs.lookup_terminated hok hmem
  rw [shutdownAllWorkers_eq]
  dsimp only
  rw [bag_foldl_insert hs.tracked.nodup_oid hnone, ← Multiset.coe_add, hs.balance]
  abel

/-- The wait moves the entries. -/
theorem balance_waited (hs : s.Settled) :
    (s.waitTerminated.terminated : Multiset WorkerEntry) =
      s.waitTerminated.ctx.terminated_workers.bag + s.waitTerminated.waited := by
  unfold waitTerminated LauncherContext.processTerminatedWorkers
  dsimp only
  rw [hs.balance, ← Multiset.coe_add]
  show _ = 0 + _
  rw [zero_add, add_comm]
  rfl

/-- Every step that meets the condition keeps the invariant. -/
theorem settled_step (hs : s.Settled) (hok : s.ShutdownSafe e) (h : Transition s e s') :
    s'.Settled := by
  have htracked := tracked_step hs.tracked h
  cases h with
  | started hphase => exact ⟨htracked, hs.balance, by simp, by simp⟩
  | notStarted hphase => exact ⟨htracked, hs.balance, by simp, by simp⟩
  | booted hphase => exact ⟨htracked, hs.balance, by simp, by simp⟩
  | woken hphase => exact ⟨htracked, balance_waited hs, by simp, by simp⟩
  | stopped hphase =>
    refine ⟨htracked, balance_stopped hs hok, fun _ => ?_, by simp⟩
    rw [shutdownAllWorkers_eq]
    exact ⟨rfl, rfl⟩
  | @handled msg started delivered ctx effect hphase hhandling =>
    have hdraining : ∀ phase, phase = s.phase → phase ≠ .stopping ∧ phase ≠ .exited := by
      rintro phase rfl
      rw [hphase]
      exact ⟨by simp, by simp⟩
    obtain ⟨hstopping, hexited⟩ := hdraining _ (foldl_perform delivered { s with ctx } effect).1
    refine ⟨htracked, balance_handled hs hok hhandling rfl, ?_, fun h => absurd h hexited⟩
    rintro (h | h)
    · exact absurd h hstopping
    · exact absurd h hexited
  | skipped hphase => exact hs
  | drained hphase => exact ⟨htracked, hs.balance, by simp, by simp⟩
  | finished hphase =>
    have hstopped := hs.stopped (Or.inl hphase)
    exact ⟨htracked, balance_waited hs, fun _ => hstopped, fun _ => rfl⟩

/-- In a state with the invariant no started worker is forgotten. -/
theorem Settled.accounted (hs : s.Settled) : s.Accounted := by
  have hbalance : (s.started : Multiset WorkerEntry) = s.ctx.pending_workers.bag +
      s.ctx.workers.bag + s.ctx.terminated_workers.bag + s.waited := by
    rw [hs.tracked.tracks.balance, hs.balance]
    abel
  refine ⟨hbalance, fun hexited entry hmem => ?_⟩
  obtain ⟨hpending, hworkers⟩ := hs.stopped (Or.inr hexited)
  -- The numbers of the starts make each entry unique.
  have hnodup : s.started.Nodup := by
    have hnumbers := hs.tracked.tracks.numbered ▸ List.nodup_range
    exact List.Nodup.of_map _ hnumbers
  have hterminated : (s.started : Multiset WorkerEntry) = s.terminated := by
    rw [hs.tracked.tracks.balance, hpending, hworkers, zero_add, zero_add]
  have hwaited : (s.started : Multiset WorkerEntry) = s.waited := by
    rw [hterminated, hs.balance, hs.exited hexited, zero_add]
  have hcount : s.started.count entry = 1 := List.count_eq_one_of_mem hnodup hmem
  rw [Multiset.coe_eq_coe] at hterminated hwaited
  exact ⟨(hterminated.count_eq entry).symm.trans hcount,
    (hwaited.count_eq entry).symm.trans hcount⟩

/-- An entry terminated for good is in the balance of the next state. -/
theorem Tracked.not_accounted (hs : s.Tracked)
    (hcard : s.ctx.terminated_workers.bag.card + s.waited.length < s.terminated.length) :
    ¬ s.Accounted := by
  rintro ⟨hbalance, -⟩
  have hcards := congrArg Multiset.card (hs.tracks.balance.symm.trans hbalance)
  simp only [Multiset.card_add, Multiset.coe_card] at hcards
  omega

/-- A shutdown of a database that has a terminated entry replaces that entry. -/
theorem card_replaced {m : HashMap Oid WorkerEntry} {entry : WorkerEntry}
    (hthere : m.lookup entry.oid ≠ none) :
    (HashMap.bag (m.insert entry.oid entry)).card = m.bag.card := by
  obtain ⟨old, hold⟩ := Option.ne_none_iff_exists'.mp hthere
  have hcard := congrArg Multiset.card (HashMap.bag_insert_of_lookup hold entry)
  rw [Multiset.card_cons, Multiset.card_cons] at hcard
  omega

/-- A message that breaks the condition forgets a worker. -/
theorem card_handled (hs : s.Settled) {msg : LauncherMessage} {started : Option String}
    {delivered : Bool} {ctx : LauncherContext} {effect : Option Effect} (hshut : msg.ShutsDown)
    (hentry : s.ctx.entry? msg.dbOid ≠ none)
    (hthere : s.ctx.terminated_workers.lookup msg.dbOid ≠ none)
    (h : Handling s.ctx started msg ctx effect)
    (hs' : s' = effect.toList.foldl (perform delivered) { s with ctx }) :
    s'.ctx.terminated_workers.bag.card + s'.waited.length < s'.terminated.length := by
  have hbefore := congrArg Multiset.card hs.balance
  simp only [Multiset.card_add, Multiset.coe_card] at hbefore
  -- An entry that replaces another one is one more termination, and not one more entry.
  have hforgets : ∀ entry, s.ctx.terminated_workers.lookup entry.oid ≠ none →
      (HashMap.bag (s.ctx.terminated_workers.insert entry.oid entry)).card + s.waited.length <
        (s.terminated ++ [entry]).length := by
    intro entry hreplaced
    rw [card_replaced hreplaced, List.length_append, List.length_singleton]
    omega
  subst hs'
  cases h with
  | register hpending => exact absurd rfl hshut
  | @shutdownRegistered _ entry hmsg hworkers =>
    have hoid := hs.tracked.tracks.workers_oid _ _ hworkers
    exact hforgets entry (hoid ▸ hthere)
  | @shutdownPending _ entry hmsg hworkers hpending =>
    have hoid := hs.tracked.tracks.pending_oid _ _ hpending
    exact hforgets entry (hoid ▸ hthere)
  | forward hforward hworkers =>
    exact absurd (hshut.forward?_eq_none.symm.trans hforward) (by simp)
  | start hstarted hworkers hpending => exact hshut.elim
  | ignore hnone hforward hregister hstart => exact absurd (hnone hshut) hentry

/-- The end of the launcher forgets a worker when a live one has the database of a terminated
one. -/
theorem card_stopped (hs : s.Settled) {d : Oid}
    (hthere : d ∈ s.ctx.terminated_workers.keys) (hentry : s.ctx.entry? d ≠ none) :
    s.ctx.shutdownAllWorkers.1.terminated_workers.bag.card + s.waited.length <
      (s.terminated ++ (s.ctx.workers.values ++ s.ctx.pending_workers.values)).length := by
  obtain ⟨entry, hentry⟩ := Option.ne_none_iff_exists'.mp hentry
  have hmem : entry ∈ s.ctx.workers.values ++ s.ctx.pending_workers.values ∧ entry.oid = d := by
    rcases LauncherContext.has_of_entry? hentry with hpending | hworkers
    · exact ⟨List.mem_append_right _ (HashMap.mem_values_iff.mpr ⟨d, hpending⟩),
        hs.tracked.tracks.pending_oid d entry hpending⟩
    · exact ⟨List.mem_append_left _ (HashMap.mem_values_iff.mpr ⟨d, hworkers⟩),
        hs.tracked.tracks.workers_oid d entry hworkers⟩
  have hlookup : s.ctx.terminated_workers.lookup entry.oid ≠ none := by
    rw [hmem.2]
    exact fun hnone => AList.lookup_eq_none.mp hnone hthere
  have hbefore := congrArg Multiset.card hs.balance
  have hfiled := card_bag_foldl_insert_lt hmem.1 hlookup
  simp only [Multiset.card_add, Multiset.coe_card] at hbefore
  rw [shutdownAllWorkers_eq, List.length_append]
  dsimp only
  omega

/-- A step that breaks the condition forgets a worker. -/
theorem not_accounted_step (hs : s.Settled) (hok : ¬ s.ShutdownSafe e) (h : Transition s e s') :
    ¬ s'.Accounted := by
  refine (tracked_step hs.tracked h).not_accounted ?_
  cases h with
  | stopped hphase =>
    obtain ⟨d, hbad⟩ := not_forall.mp hok
    obtain ⟨hthere, hentry⟩ := Classical.not_imp.mp hbad
    exact card_stopped hs hthere hentry
  | handled hphase hhandling =>
    obtain ⟨hshut, hbad⟩ := Classical.not_imp.mp hok
    obtain ⟨hentry, hthere⟩ := Classical.not_imp.mp hbad
    exact card_handled hs hshut hentry hthere hhandling rfl
  | _ => exact absurd trivial hok

/-- Filing entries of different databases under new keys replaces none. -/
theorem notReplaced_foldl_insert {entries : List WorkerEntry} {m : HashMap Oid WorkerEntry}
    (hnone : ∀ entry ∈ entries, m.lookup entry.oid = none) :
    HashMap.NotReplaced m (entries.foldl (fun m entry => m.insert entry.oid entry) m) := by
  intro d entry entry' hbefore hafter
  rcases lookup_foldl_insert hafter with hold | ⟨hmem, rfl⟩
  · exact Option.some.inj (hold.symm.trans hbefore)
  · exact absurd ((hnone entry' hmem).symm.trans hbefore) (by simp)

/-- A message that meets the condition replaces no terminated entry. -/
theorem terminated_notReplaced_handled (hs : s.Settled) {msg : LauncherMessage}
    {started : Option String} {ctx : LauncherContext} {effect : Option Effect}
    (hok : msg.ShutsDown → s.ctx.entry? msg.dbOid ≠ none →
      s.ctx.terminated_workers.lookup msg.dbOid = none)
    (h : Handling s.ctx started msg ctx effect) :
    HashMap.NotReplaced s.ctx.terminated_workers ctx.terminated_workers := by
  have hnone : ∀ entry, s.ctx.Has msg.dbOid entry → entry.oid = msg.dbOid → msg.ShutsDown →
      s.ctx.terminated_workers.lookup entry.oid = none := by
    intro entry hhas hoid hmsg
    rw [hoid]
    exact hok hmsg fun hentry => LauncherContext.not_has_of_entry? hentry entry hhas
  cases h with
  | shutdownRegistered hmsg hworkers =>
    have hoid := hs.tracked.tracks.workers_oid _ _ hworkers
    exact HashMap.NotReplaced.insert (hnone _ (Or.inr hworkers) hoid hmsg) _
  | shutdownPending hmsg hworkers hpending =>
    have hoid := hs.tracked.tracks.pending_oid _ _ hpending
    exact HashMap.NotReplaced.insert (hnone _ (Or.inl hpending) hoid hmsg) _
  | _ => exact HashMap.NotReplaced.refl _

/-- A step that meets the condition replaces no terminated entry. -/
theorem terminated_notReplaced_step (hs : s.Settled) (hok : s.ShutdownSafe e)
    (h : Transition s e s') :
    HashMap.NotReplaced s.ctx.terminated_workers s'.ctx.terminated_workers := by
  cases h with
  | woken hphase => exact HashMap.NotReplaced.empty _
  | finished hphase => exact HashMap.NotReplaced.empty _
  | stopped hphase =>
    rw [shutdownAllWorkers_eq]
    exact notReplaced_foldl_insert fun entry hmem => hs.lookup_terminated hok hmem
  | handled hphase hhandling =>
    rw [(foldl_perform _ _ _).2]
    exact terminated_notReplaced_handled hs hok hhandling
  | _ => exact HashMap.NotReplaced.refl _

/-! ## The runs -/

/-- The launcher before its start-up. -/
theorem settled_init {oids : List Oid} (hoids : oids.Nodup) : (init oids).Settled where
  tracked := tracked_init hoids
  balance := rfl
  stopped := fun h => absurd h (by simp [init])
  exited := fun h => absurd h (by simp [init])

/-- In a run of the launcher, no database is shut down while it has a terminated entry besides the
live one exactly when no started worker is forgotten in any state of the run and no step replaces a
terminated entry. -/
theorem accounted_iff {oids : List Oid} (hoids : oids.Nodup) {es : List Event} {s : Launcher}
    (h : Run.run step (init oids) es = some s) :
    Run.RunAll step ShutdownSafe (init oids) es ↔
      (∀ pre, pre <+: es → ∀ t, Run.run step (init oids) pre = some t → t.Accounted) ∧
        ∀ pre e, pre ++ [e] <+: es → ∀ t t', Run.run step (init oids) pre = some t →
          t.step e = some t' →
            HashMap.NotReplaced t.ctx.terminated_workers t'.ctx.terminated_workers := by
  have hstep : ∀ t e t', Settled t → t.ShutdownSafe e → t.step e = some t' → t'.Settled :=
    fun t e t' ht hok hnext => settled_step ht hok (transition_of_step hnext)
  have hiff := Run.runAll_iff_forall_prefix (fun t ht => Settled.accounted ht) hstep
    (fun t e t' ht hok hnext => not_accounted_step ht hok (transition_of_step hnext))
    (settled_init hoids) h
  refine ⟨fun hok => ⟨hiff.mp hok, ?_⟩, fun hall => hiff.mpr hall.1⟩
  intro pre e hpre t t' ht hnext
  have hsafe := hok.holds_at hpre ht
  have hbefore : Run.RunAll step ShutdownSafe (init oids) pre :=
    hok.initial ((List.prefix_append _ _).trans hpre)
  have hsettled := Run.run_invariant hstep (settled_init hoids) hbefore ht
  exact terminated_notReplaced_step hsettled hsafe (transition_of_step hnext)

/-- In one drain a worker reports that there is no foreign server, a server is created, and the
worker reports its exit, which shuts the new worker down. -/
def twoShutdownsInOneDrain : List Event :=
  [.boot (some "a"), .boot none, .latch true,
    .recv (some (.dbExtensionStatus 5 .noForeignServer)) none true,
    .recv (some (.newConfig 5 (validatorConfig []))) (some "a") true,
    .recv (some (.subscriberExit 5 (.ok ()))) none true, .empty, .latch false, .finish]

/-- The first worker is terminated and never waited for. -/
theorem first_worker_forgotten : ∃ s, Run.run step (init [5]) twoShutdownsInOneDrain = some s ∧
    s.phase = .exited ∧ s.started = [⟨"a", 5, 0⟩, ⟨"a", 5, 1⟩] ∧ s.waited = [⟨"a", 5, 1⟩] ∧
      ¬ s.Accounted := by
  have hrun : Run.run step (init [5]) twoShutdownsInOneDrain = some _ := rfl
  refine ⟨_, hrun, rfl, rfl, rfl, fun haccounted => ?_⟩
  obtain ⟨-, hwaited⟩ := haccounted.2 rfl ⟨"a", 5, 0⟩ (by decide)
  exact absurd hwaited (by decide)

/-- The same two workers in two drains: the launcher waits for both. -/
def twoShutdownsInTwoDrains : List Event :=
  [.boot (some "a"), .boot none, .latch true,
    .recv (some (.dbExtensionStatus 5 .noForeignServer)) none true,
    .recv (some (.newConfig 5 (validatorConfig []))) (some "a") true, .empty, .latch true,
    .recv (some (.subscriberExit 5 (.ok ()))) none true, .empty, .latch false, .finish]

/-- No worker is forgotten there. -/
theorem accounted_two_drains : ∃ s, Run.run step (init [5]) twoShutdownsInTwoDrains = some s ∧
    (Run.RunAll step ShutdownSafe (init [5]) twoShutdownsInTwoDrains ↔
      (∀ pre, pre <+: twoShutdownsInTwoDrains → ∀ t, Run.run step (init [5]) pre = some t →
        t.Accounted) ∧
      ∀ pre e, pre ++ [e] <+: twoShutdownsInTwoDrains → ∀ t t',
        Run.run step (init [5]) pre = some t → t.step e = some t' →
          HashMap.NotReplaced t.ctx.terminated_workers t'.ctx.terminated_workers) ∧
    Run.RunAll step ShutdownSafe (init [5]) twoShutdownsInTwoDrains := by
  have hrun : Run.run step (init [5]) twoShutdownsInTwoDrains = some _ := rfl
  exact ⟨_, hrun, accounted_iff (by decide) hrun, by decide⟩

end PgNats.Launcher
