import PgNats.Launcher.BusSteps
import PgNats.System.Delivery

/-!
# The launcher in the system

The launcher is modelled twice. `Launcher.step` is its loop alone, against a bus from which anything
may come and forwards that succeed or fail as they like. `System.step` is the launcher among the
subscribers and the backends, which decide what is on the bus and when a forward returns.
`exists_launcher_run` says that the second is the first for the launcher: whatever happens in the
system, the launcher goes through a run of its loop, in which it handles the messages of the bus in
order. What it has done to the subscriber processes in the one is what its histories say in the
other. So what holds of every run of the loop alone holds of the launcher in the system.

A forward is two steps of the system and one of the loop, which is taken when the forward returns.
-/

namespace PgNats

/-- What the launcher has done to the worker with this number: whether it has terminated it, and
what it has sent to it. -/
def Launcher.doneTo (l : Launcher) (g : ℕ) : Bool × List SubscriberMessage :=
  (l.terminated.any fun entry => entry.worker == g,
    (l.sent.filter fun sent => sent.1.worker == g).map Prod.snd)

/-- In a drain, the loop handles a message and performs the effect. -/
theorem Launcher.step_recv_eq {l : Launcher} (hphase : l.phase = .draining)
    (msg : LauncherMessage) (started : Option String) (delivered : Bool) :
    l.step (.recv (some msg) started delivered) =
      some ((l.ctx.handle started msg).2.toList.foldl (perform delivered)
        { l with ctx := (l.ctx.handle started msg).1 }) := by
  unfold step
  rw [hphase]

/-- Where the loop stands, for which a forward is a part of the drain. -/
def LauncherPc.phase : LauncherPc → Launcher.Phase
  | .starting oids => .starting oids
  | .idle => .waiting
  | .draining => .draining
  | .sending _ _ => .draining

namespace System

/-- What the launcher has done to the process with this number. -/
def doneTo (procs : List Proc) (g : ℕ) : Bool × List SubscriberMessage :=
  match procs[g]? with
  | some p => (p.terminating, p.delivered)
  | none => (false, [])

/-- The messages that the launcher is done with: all that it has taken, but the one that it is
forwarding. -/
def handled (s : System) : List LauncherMessage :=
  match s.launcher with
  | .sending _ _ => (s.taken.map Prod.fst).dropLast
  | _ => s.taken.map Prod.fst

/-! ## What is done to the processes -/

section Procs

variable {procs : List Proc} {l : Launcher}

/-- To a new process nothing has been done. -/
theorem doneTo_append (procs : List Proc) (d : Oid) (g : ℕ) :
    doneTo (procs ++ [fresh d]) g = doneTo procs g := by
  unfold doneTo
  rcases lt_or_ge g procs.length with hlt | hge
  · rw [List.getElem?_append_left hlt]
  · rw [List.getElem?_append_right hge, List.getElem?_eq_none hge]
    cases hsub : g - procs.length with
    | zero => rfl
    | succ n => rfl

/-- A change of a process, seen from all processes. -/
theorem doneTo_set {g : ℕ} {p : Proc} (hproc : procs[g]? = some p) (p' : Proc) (g' : ℕ) :
    doneTo (procs.set g p') g' =
      if g = g' then (p'.terminating, p'.delivered) else doneTo procs g' := by
  unfold doneTo
  split_ifs with heq
  · rw [← heq, List.getElem?_set_self (List.getElem?_eq_some_iff.mp hproc).1]
  · rw [List.getElem?_set_ne heq]

/-- A process's own moves do nothing of it. -/
theorem doneTo_set_self {g : ℕ} {p : Proc} (hproc : procs[g]? = some p) (pc : Pc) (g' : ℕ) :
    doneTo (procs.set g { p with pc }) g' = doneTo procs g' := by
  rw [doneTo_set hproc]
  split_ifs with heq
  · unfold doneTo
    rw [← heq, hproc]
  · rfl

/-- `SIGTERM` to a process, seen from all processes. -/
theorem doneTo_modify {g : ℕ} (hlt : g < procs.length) (g' : ℕ) :
    doneTo (procs.modify g fun p => { p with terminating := true }) g' =
      ((doneTo procs g').1 || g == g', (doneTo procs g').2) := by
  unfold doneTo
  rw [List.getElem?_modify]
  rcases eq_or_ne g g' with rfl | hne
  · rw [List.getElem?_eq_getElem hlt]
    simp
  · cases procs[g']? <;> simp [hne]

/-- The processes are those that the launcher has started, and what it has done to them is what it
says. -/
structure Follows (procs : List Proc) (l : Launcher) : Prop where
  /-- The processes, by their numbers. -/
  started : l.started.map (fun entry => (entry.oid, entry.worker)) = (procs.map Proc.db).zipIdx
  /-- What was done to them. -/
  doneTo : ∀ g, System.doneTo procs g = l.doneTo g

/-- The launcher starts a process. -/
theorem Follows.start (h : Follows procs l) (entry : WorkerEntry)
    (hworker : entry.worker = procs.length) :
    Follows (procs ++ [fresh entry.oid]) { l with started := l.started ++ [entry] } where
  started := by
    rw [List.map_append, h.started, List.map_append, List.zipIdx_append, List.length_map,
      List.map_singleton, hworker, Nat.zero_add]
    rfl
  doneTo g := (doneTo_append procs entry.oid g).trans (h.doneTo g)

/-- The launcher terminates a process. -/
theorem Follows.terminate (h : Follows procs l) {entry : WorkerEntry}
    (hworker : entry.worker < procs.length) :
    Follows (procs.modify entry.worker fun p => { p with terminating := true })
      { l with terminated := l.terminated ++ [entry] } where
  started := by rw [map_db_modify]; exact h.started
  doneTo g := by
    rw [doneTo_modify hworker, h.doneTo]
    unfold Launcher.doneTo
    dsimp only
    rw [List.any_append, List.any_cons, List.any_nil, Bool.or_false]

/-- A message of the launcher comes to a process. -/
theorem Follows.send (h : Follows procs l) {entry : WorkerEntry} {p : Proc}
    (hproc : procs[entry.worker]? = some p) (pc : Pc) (msg : SubscriberMessage) :
    Follows (procs.set entry.worker { p with pc, delivered := p.delivered ++ [msg] })
      { l with sent := l.sent ++ [(entry, msg)] } where
  started := by rw [map_db_set hproc (by rfl)]; exact h.started
  doneTo g := by
    have hbefore := h.doneTo g
    rw [doneTo_set hproc]
    unfold Launcher.doneTo at hbefore ⊢
    dsimp only
    rw [List.filter_append, List.map_append]
    split_ifs with heq
    · subst heq
      unfold System.doneTo at hbefore
      rw [hproc] at hbefore
      obtain ⟨hterminating, hdelivered⟩ := Prod.mk.inj hbefore
      rw [hterminating, hdelivered]
      simp
    · rw [hbefore]
      simp [heq]

/-- Where nothing was done to the processes, nothing changes. -/
theorem Follows.congr (h : Follows procs l) {procs' : List Proc}
    (hdb : procs'.map Proc.db = procs.map Proc.db)
    (hdone : ∀ g, System.doneTo procs' g = System.doneTo procs g) : Follows procs' l where
  started := by rw [hdb]; exact h.started
  doneTo g := (hdone g).trans (h.doneTo g)

end Procs

/-! ## The relation -/

/-- The launcher's loop alone is in `l` after `fs`, when the system is in `s`. -/
structure Carries (s : System) (fs : List Launcher.Event) (l : Launcher) : Prop where
  /-- The system is well formed. -/
  wellFormed : s.WellFormed
  /-- Where the loop stands. -/
  phase : l.phase = s.launcher.phase
  /-- The context. -/
  ctx : l.ctx = s.ctx
  /-- The processes. -/
  follows : Follows s.procs l
  /-- What the loop has received. -/
  buffers : fs.filterMap Launcher.Event.buffer? = s.handled.map some
  /-- A forward is of the message taken last, to the registered worker of its database. -/
  sending : ∀ g msg, s.launcher = .sending g msg → ∃ before m entry,
    s.taken.map Prod.fst = before ++ [m] ∧ m.forward? = some msg ∧
      s.ctx.workers.lookup m.dbOid = some entry ∧ entry.worker = g

variable {s s' : System} {e : Event} {fs : List Launcher.Event} {l : Launcher}

/-- A launcher that is not forwarding is done with all that it has taken. -/
theorem handled_eq (h : ∀ g msg, s.launcher ≠ .sending g msg) :
    s.handled = s.taken.map Prod.fst := by
  unfold handled
  split
  · next g msg hlauncher => exact absurd hlauncher (h g msg)
  · rfl

/-- The launcher when the system starts. -/
theorem carries_init {oids : List Oid} (hoids : oids.Nodup) (catalog : Oid → Catalog) :
    Carries (init oids catalog) [] (.init oids) where
  wellFormed := wellFormed_init hoids catalog
  phase := rfl
  ctx := rfl
  follows := ⟨rfl, fun _ => rfl⟩
  buffers := rfl
  sending g msg h := by cases h

/-- A step of another process. -/
theorem Carries.stutter (h : Carries s fs l) (hwf : s'.WellFormed)
    (hlauncher : s'.launcher = s.launcher) (hctx : s'.ctx = s.ctx) (htaken : s'.taken = s.taken)
    (hfollows : Follows s'.procs l) : Carries s' fs l where
  wellFormed := hwf
  phase := by rw [hlauncher]; exact h.phase
  ctx := by rw [hctx]; exact h.ctx
  follows := hfollows
  buffers := by
    unfold handled
    rw [hlauncher, htaken]
    exact h.buffers
  sending := by
    rw [hlauncher, hctx, htaken]
    exact h.sending

/-- A step of the launcher away from the bus, outside a forward. -/
theorem Carries.move (h : Carries s fs l) (hwf : s'.WellFormed)
    (hquiet : ∀ g msg, s.launcher ≠ .sending g msg)
    (hquiet' : ∀ g msg, s'.launcher ≠ .sending g msg) (htaken : s'.taken = s.taken)
    {f : Launcher.Event} {l' : Launcher} (hstep : l.step f = some l') (hbuffer : f.buffer? = none)
    (hphase : l'.phase = s'.launcher.phase) (hctx : l'.ctx = s'.ctx)
    (hfollows : Follows s'.procs l') :
    ∃ more l', Run.run Launcher.step l more = some l' ∧ Carries s' (fs ++ more) l' := by
  refine ⟨[f], l', (Run.run_singleton l f).trans hstep, hwf, hphase, hctx, hfollows, ?_, ?_⟩
  · rw [List.filterMap_append, h.buffers, filterMap_cons_toList, hbuffer, handled_eq hquiet,
      handled_eq hquiet', htaken]
    exact List.append_nil _
  · exact fun g msg hlauncher => absurd hlauncher (hquiet' g msg)

/-- The launcher handles a message that it does not forward. -/
theorem Carries.handle (h : Carries s fs l) (hlauncher : s.launcher = .draining) {item : Item}
    {rest : List Item} {started : Option String} {ctx : LauncherContext} {effect : Option Effect}
    (hhandle : s.ctx.handle started item.msg = (ctx, effect))
    (hsend : ∀ entry msg, effect ≠ some (.send entry msg))
    (hwf : ((s.taking item rest ctx).perform effect).WellFormed)
    (hfollows : Follows ((s.taking item rest ctx).perform effect).procs
      (effect.toList.foldl (Launcher.perform true) { l with ctx })) :
    ∃ more l', Run.run Launcher.step l more = some l' ∧
      Carries ((s.taking item rest ctx).perform effect) (fs ++ more) l' := by
  have hlauncher' : ((s.taking item rest ctx).perform effect).launcher = .draining := by
    unfold perform
    dsimp only
    split
    · exact absurd rfl (hsend _ _)
    · exact hlauncher
  have hquiet : ∀ s : System, s.launcher = .draining → ∀ g msg, s.launcher ≠ .sending g msg :=
    fun s hs g msg hsending => by rw [hs] at hsending; cases hsending
  have hphase : l.phase = .draining := by rw [h.phase, hlauncher]; rfl
  have hstep : l.step (.recv (some item.msg) started true) =
      some (effect.toList.foldl (Launcher.perform true) { l with ctx }) := by
    rw [Launcher.step_recv_eq hphase, h.ctx, hhandle]
  obtain ⟨hphase', hctx'⟩ := Launcher.foldl_perform true { l with ctx } effect
  refine ⟨_, _, (Run.run_singleton _ _).trans hstep, hwf, ?_, hctx', hfollows, ?_, ?_⟩
  · rw [hphase', hlauncher']
    exact hphase
  · rw [List.filterMap_append, h.buffers, handled_eq (hquiet s hlauncher),
      handled_eq (hquiet _ hlauncher')]
    unfold perform taking
    dsimp only
    rw [List.map_append, List.map_append]
    rfl
  · exact fun g msg hsending => absurd hsending (hquiet _ hlauncher' g msg)

/-- The launcher takes a message and begins to forward it, which the loop alone does not see. -/
theorem Carries.begin (h : Carries s fs l) (hlauncher : s.launcher = .draining) {item : Item}
    {rest : List Item} {msg : SubscriberMessage} {entry : WorkerEntry}
    (hforward : item.msg.forward? = some msg)
    (hworkers : s.ctx.workers.lookup item.msg.dbOid = some entry)
    (hwf : ((s.taking item rest s.ctx).perform (some (.send entry msg))).WellFormed) :
    Carries ((s.taking item rest s.ctx).perform (some (.send entry msg))) fs l where
  wellFormed := hwf
  phase := by rw [h.phase, hlauncher]; rfl
  ctx := h.ctx
  follows := h.follows
  buffers := by
    rw [h.buffers]
    unfold handled
    rw [hlauncher]
    unfold perform taking
    dsimp only
    rw [List.map_append, List.map_singleton, List.dropLast_concat]
  sending g msg' hsending := by
    obtain ⟨hworker, rfl⟩ := LauncherPc.sending.inj hsending
    exact ⟨_, _, entry, List.map_append, hforward, hworkers, hworker⟩

/-- The launcher takes a message. -/
theorem Carries.recv (h : Carries s fs l) {started : Option String}
    (hstep : step s (.recv started) = some s') :
    ∃ more l', Run.run Launcher.step l more = some l' ∧ Carries s' (fs ++ more) l' := by
  have hwf := wellFormed_step h.wellFormed (transition_of_step hstep)
  have hworker : ∀ d entry, s.ctx.Has d entry → entry.worker < s.procs.length := by
    intro d entry hhas
    obtain ⟨p, hproc, -⟩ := (h.wellFormed.entries d entry hhas).2
    exact (List.getElem?_eq_some_iff.mp hproc).1
  unfold step at hstep
  dsimp only at hstep
  split at hstep
  · next item rest hlauncher hbus =>
    obtain rfl := Option.some.inj hstep
    have hhandling := LauncherContext.handling_of_handle s.ctx started item.msg
    unfold take at hwf ⊢
    cases hhandle : s.ctx.handle started item.msg with
    | mk ctx effect =>
      rw [hhandle] at hhandling hwf
      dsimp only at hhandling hwf ⊢
      have hsame : Follows s.procs { l with ctx } := ⟨h.follows.started, h.follows.doneTo⟩
      obtain ⟨msg, sender⟩ := item
      cases hhandling with
      | register hpending => exact h.handle hlauncher hhandle (by simp) hwf hsame
      | shutdownRegistered hmsg hworkers =>
        exact h.handle hlauncher hhandle (by simp) hwf
          (hsame.terminate (hworker _ _ (Or.inr hworkers)))
      | shutdownPending hmsg hworkers hpending =>
        exact h.handle hlauncher hhandle (by simp) hwf
          (hsame.terminate (hworker _ _ (Or.inl hpending)))
      | forward hmsg hworkers =>
        exact ⟨[], l, rfl, (List.append_nil fs).symm ▸ h.begin hlauncher hmsg hworkers hwf⟩
      | start hstarted hworkers hpending =>
        exact h.handle hlauncher hhandle (by simp) hwf (hsame.start _ h.wellFormed.counter)
      | ignore hshut hforward hregister hstart =>
        exact h.handle hlauncher hhandle (by simp) hwf hsame
  · exact absurd hstep (by simp)

/-- A forward returns. The loop alone takes the message now. -/
theorem Carries.forwarded (h : Carries s fs l) (hwf : s'.WellFormed) {g : ℕ}
    {msg : SubscriberMessage} (hlauncher : s.launcher = .sending g msg)
    (hlauncher' : s'.launcher = .draining) (hctx : s'.ctx = s.ctx) (htaken : s'.taken = s.taken)
    (delivered : Bool) (hfollows : ∀ entry : WorkerEntry, entry.worker = g →
      Follows s'.procs (Launcher.perform delivered l (.send entry msg))) :
    ∃ more l', Run.run Launcher.step l more = some l' ∧ Carries s' (fs ++ more) l' := by
  obtain ⟨before, m, entry, hlast, hforward, hworkers, hworker⟩ := h.sending g msg hlauncher
  have hphase : l.phase = .draining := by rw [h.phase, hlauncher]; rfl
  have hstep : l.step (.recv (some m) none delivered) =
      some (Launcher.perform delivered l (.send entry msg)) := by
    obtain ⟨hsame, heffect⟩ :=
      (LauncherContext.handling_of_handle l.ctx none m).of_registered hforward (h.ctx ▸ hworkers)
    rw [Launcher.step_recv_eq hphase, hsame, heffect]
    rfl
  obtain ⟨hphase', hctx'⟩ := Launcher.foldl_perform delivered l (some (.send entry msg))
  refine ⟨_, _, (Run.run_singleton _ _).trans hstep, hwf, ?_, ?_, hfollows entry hworker, ?_, ?_⟩
  · rw [hlauncher']
    exact hphase'.trans hphase
  · rw [hctx]
    exact hctx'.trans h.ctx
  · rw [List.filterMap_append, h.buffers]
    unfold handled
    rw [hlauncher, hlauncher', htaken, hlast]
    dsimp only
    rw [List.dropLast_concat, List.map_append]
    rfl
  · exact fun g' msg' hsending => by rw [hlauncher'] at hsending; cases hsending

/-- Every step of the system is matched by at most one step of the loop alone. -/
theorem carries_step (h : Carries s fs l) (hstep : step s e = some s') :
    ∃ more l', Run.run Launcher.step l more = some l' ∧ Carries s' (fs ++ more) l' := by
  have htransition := transition_of_step hstep
  have hwf := wellFormed_step h.wellFormed htransition
  cases htransition with
  | @boot oid oids db_name hlauncher =>
    have hphase : l.phase = .starting (oid :: oids) := by rw [h.phase, hlauncher]; rfl
    have hboot : l.step (.boot (some db_name)) = some { l with
        phase := .starting oids
        ctx := { s.ctx with
          counter := s.ctx.counter + 1
          pending_workers := s.ctx.pending_workers.insert oid ⟨db_name, oid, s.ctx.counter⟩ }
        started := l.started ++ [⟨db_name, oid, s.ctx.counter⟩] } := by
      unfold Launcher.step LauncherContext.startSubscribeWorker
      rw [hphase, h.ctx]
      rfl
    have hfollows := h.follows.start ⟨db_name, oid, s.ctx.counter⟩ h.wellFormed.counter
    exact h.move hwf (by simp [hlauncher]) (by simp [perform]) rfl hboot rfl rfl rfl
      ⟨hfollows.started, hfollows.doneTo⟩
  | @bootFailed oid oids hlauncher =>
    have hphase : l.phase = .starting (oid :: oids) := by rw [h.phase, hlauncher]; rfl
    have hboot : l.step (.boot none) = some { l with phase := .starting oids } := by
      unfold Launcher.step
      rw [hphase]
      rfl
    exact h.move hwf (by simp [hlauncher]) (by simp) rfl hboot rfl rfl h.ctx
      ⟨h.follows.started, h.follows.doneTo⟩
  | @booted started hlauncher =>
    have hphase : l.phase = .starting [] := by rw [h.phase, hlauncher]; rfl
    have hboot : l.step (.boot started) = some { l with phase := .waiting } := by
      unfold Launcher.step
      rw [hphase]
    exact h.move hwf (by simp [hlauncher]) (by simp) rfl hboot rfl rfl h.ctx
      ⟨h.follows.started, h.follows.doneTo⟩
  | wake hlauncher hgone =>
    have hphase : l.phase = .waiting := by rw [h.phase, hlauncher]; rfl
    have hlatch : l.step (.latch true) = some { l.waitTerminated with phase := .draining } := by
      unfold Launcher.step
      rw [hphase]
    exact h.move hwf (by simp [hlauncher]) (by simp) rfl hlatch rfl rfl
      (congrArg LauncherContext.processTerminatedWorkers h.ctx)
      ⟨h.follows.started, h.follows.doneTo⟩
  | unlock hlauncher hbus =>
    have hphase : l.phase = .draining := by rw [h.phase, hlauncher]; rfl
    have hempty : l.step .empty = some { l with phase := .waiting } := by
      unfold Launcher.step
      rw [hphase]
    exact h.move hwf (by simp [hlauncher]) (by simp) rfl hempty rfl rfl h.ctx
      ⟨h.follows.started, h.follows.doneTo⟩
  | recv hlauncher hbus hhandling => exact h.recv hstep
  | sent hlauncher hproc hpc =>
    refine h.forwarded hwf hlauncher rfl rfl rfl true fun entry hworker => ?_
    subst hworker
    exact h.follows.send hproc _ _
  | sendFailed hlauncher hproc hpc =>
    exact h.forwarded hwf hlauncher rfl rfl rfl false fun entry hworker => h.follows
  | proc hproc hlock hmove =>
    refine ⟨[], l, rfl, (List.append_nil fs).symm ▸ h.stutter hwf rfl rfl rfl ?_⟩
    exact h.follows.congr (map_db_set hproc rfl) (doneTo_set_self hproc _)
  | backend hbackend =>
    obtain ⟨hlauncher, hctx, hprocs, htaken, -⟩ := hbackend.frame
    refine ⟨[], l, rfl, (List.append_nil fs).symm ▸ h.stutter hwf hlauncher hctx htaken ?_⟩
    rw [hprocs]
    exact h.follows

/-- In every reachable state, whatever the interleaving and the failures, the launcher is where a
run of its loop alone has led, with the same context. In that run, it has received the messages that
it is done with in the system, in order. The subscriber processes are the workers that the run has
started, in order, and they have been terminated and sent to as the run says. -/
theorem exists_launcher_run {oids : List Oid} (hoids : oids.Nodup) {catalog : Oid → Catalog}
    {es : List Event} (hrun : Run.run step (init oids catalog) es = some s) :
    ∃ fs l, Run.run Launcher.step (.init oids) fs = some l ∧
      fs.filterMap Launcher.Event.buffer? = s.handled.map some ∧
      l.phase = s.launcher.phase ∧ l.ctx = s.ctx ∧
      l.started.map (fun entry => (entry.oid, entry.worker)) = s.dbs.zipIdx ∧
      ∀ (g : ℕ) (p : Proc), s.procs[g]? = some p → l.doneTo g = (p.terminating, p.delivered) := by
  obtain ⟨fs, l, hloop, h⟩ := Run.run_simulation (fun _ _ _ _ _ => carries_step)
    (carries_init hoids catalog) hrun
  refine ⟨fs, l, hloop, h.buffers, h.phase, h.ctx, h.follows.started, fun g p hproc => ?_⟩
  have hdone := h.follows.doneTo g
  unfold doneTo at hdone
  rw [hproc] at hdone
  exact hdone.symm

/-- Two requests and a report, as the loop alone gets them. The worker was sent the second
request. -/
theorem exists_launcher_run_second :
    ∃ s fs l, Run.run step (init [5] fun _ => configured) secondOnly = some s ∧
      Run.run Launcher.step (.init [5]) fs = some l ∧
      fs.filterMap Launcher.Event.buffer? = [some (.subscribe 5 "a" "f"),
        some (.dbExtensionStatus 5 .exist), some (.subscribe 5 "b" "g")] ∧
      l.doneTo 0 = (false, [.subscribe "b" "g"]) := by
  obtain ⟨s, p, hrun, hhandled, hproc, hdone⟩ : ∃ s p,
      Run.run step (init [5] fun _ => configured) secondOnly = some s ∧
      s.handled = [.subscribe 5 "a" "f", .dbExtensionStatus 5 .exist, .subscribe 5 "b" "g"] ∧
      s.procs[0]? = some p ∧ (p.terminating, p.delivered) = (false, [.subscribe "b" "g"]) :=
    ⟨_, _, rfl, rfl, rfl, rfl⟩
  obtain ⟨fs, l, hloop, hbuffers, -, -, -, hworkers⟩ :=
    exists_launcher_run (by decide : ([5] : List Oid).Nodup) hrun
  rw [hhandled] at hbuffers
  exact ⟨s, fs, l, hrun, hloop, hbuffers, (hworkers 0 p hproc).trans hdone⟩

end System

end PgNats
