import PgNats.Launcher.Run

/-!
# Databases do not interfere through the launcher

What the launcher does for one database is a small machine of its own, `View`: whether the database
has a pending, a registered and a terminated worker, and what was sent to its workers. A message of
the database moves it as `View.handle` says, and a message of another database does not move it
(`view_handled`). So what a run leaves of the database is what its own messages leave, and two runs
with the same messages of the database, under the same outcomes, leave the same
(`databases_isolated`).

The outcome of a start or of a forward for a database is a function of the history of that database:
its own messages so far, and the rounds of the main loop.
-/

namespace PgNats.Launcher

/-! ## One database -/

/-- What the launcher has for one database. -/
structure View where
  /-- The name in the pending entry. -/
  pending : Option String
  /-- The name in the registered entry. -/
  registered : Option String
  /-- The name in the terminated entry. -/
  terminated : Option String
  /-- What was sent to its workers. -/
  sent : List SubscriberMessage
  deriving DecidableEq

/-- The view of a database. -/
def view (s : Launcher) (d : Oid) : View where
  pending := (s.ctx.pending_workers.lookup d).map WorkerEntry.db_name
  registered := (s.ctx.workers.lookup d).map WorkerEntry.db_name
  terminated := (s.ctx.terminated_workers.lookup d).map WorkerEntry.db_name
  sent := (s.sent.filter fun sent => sent.1.oid = d).map Prod.snd

namespace View

/-- A pending worker is registered. -/
def register (v : View) : View :=
  match v.pending with
  | some name => { v with pending := none, registered := some name }
  | none => v

/-- The worker is shut down, the registered one first. -/
def shutdown (v : View) : View :=
  match v.registered with
  | some name => { v with registered := none, terminated := some name }
  | none =>
    match v.pending with
    | some name => { v with pending := none, terminated := some name }
    | none => v

/-- A message is forwarded to a registered worker. -/
def forward (v : View) (delivered : Bool) (msg : SubscriberMessage) : View :=
  match v.registered with
  | some _ => if delivered then { v with sent := v.sent ++ [msg] } else v
  | none => v

/-- A configuration is forwarded, or starts a worker. -/
def configure (v : View) (started : Option String) (delivered : Bool) (config : Config) : View :=
  match v.registered with
  | some _ => v.forward delivered (.newConfig config)
  | none =>
    match v.pending, started with
    | none, some name => { v with pending := some name }
    | _, _ => v

/-- A message of the database is handled. -/
def handle (v : View) (started : Option String) (delivered : Bool) : LauncherMessage → View
  | .dbExtensionStatus _ .exist => v.register
  | .dbExtensionStatus _ .noExtension => v.shutdown
  | .dbExtensionStatus _ .noForeignServer => v.shutdown
  | .newConfig _ config => v.configure started delivered config
  | .subscribe _ subject fn_name => v.forward delivered (.subscribe subject fn_name)
  | .unsubscribe _ subject fn_name => v.forward delivered (.unsubscribe subject fn_name)
  | .subscriberExit _ _ => v.shutdown
  | .foreignServerDropped _ => v.shutdown

/-- The terminated worker is waited for. -/
def wait (v : View) : View := { v with terminated := none }

variable (v : View) (started : Option String) (delivered : Bool)

/-- A message that shuts its database down does that. -/
theorem handle_of_shutsDown {msg : LauncherMessage} (h : msg.ShutsDown) :
    v.handle started delivered msg = v.shutdown := by
  cases msg with
  | dbExtensionStatus d status =>
    cases status with
    | exist => exact absurd rfl h
    | noExtension => rfl
    | noForeignServer => rfl
  | subscriberExit d reason => rfl
  | foreignServerDropped d => rfl
  | newConfig d config => exact h.elim
  | subscribe d subject fn_name => exact h.elim
  | unsubscribe d subject fn_name => exact h.elim

/-- A message to forward is forwarded when a worker is registered. -/
theorem handle_of_forward {msg : LauncherMessage} {m : SubscriberMessage} {name : String}
    (h : msg.forward? = some m) (hregistered : v.registered = some name) :
    v.handle started delivered msg = v.forward delivered m := by
  cases msg with
  | newConfig d config =>
    obtain rfl := Option.some.inj h
    unfold handle configure
    rw [hregistered]
  | subscribe d subject fn_name => obtain rfl := Option.some.inj h; rfl
  | unsubscribe d subject fn_name => obtain rfl := Option.some.inj h; rfl
  | dbExtensionStatus d status => exact absurd h (by simp [LauncherMessage.forward?])
  | subscriberExit d reason => exact absurd h (by simp [LauncherMessage.forward?])
  | foreignServerDropped d => exact absurd h (by simp [LauncherMessage.forward?])

end View

/-! ## The launcher, seen from one database -/

/-- Every live entry is under its own database. -/
def OwnOid (s : Launcher) : Prop := ∀ d entry, s.ctx.Has d entry → entry.oid = d

variable {s s' : Launcher} {e : Event}

/-- A view is its four parts. -/
theorem view_congr {d : Oid}
    (hpending : s'.ctx.pending_workers.lookup d = s.ctx.pending_workers.lookup d)
    (hworkers : s'.ctx.workers.lookup d = s.ctx.workers.lookup d)
    (hterminated : s'.ctx.terminated_workers.lookup d = s.ctx.terminated_workers.lookup d)
    (hsent : (s'.sent.filter fun sent => sent.1.oid = d) =
      s.sent.filter fun sent => sent.1.oid = d) : s'.view d = s.view d := by
  unfold view
  rw [hpending, hworkers, hterminated, hsent]

/-- An insertion of an entry under its own database. -/
theorem oid_of_lookup_insert {m : HashMap Oid WorkerEntry} {d d' : Oid} {db_name : String} {g : ℕ}
    {entry : WorkerEntry} (hm : ∀ d entry, m.lookup d = some entry → entry.oid = d)
    (h : (m.insert d ⟨db_name, d, g⟩).lookup d' = some entry) : entry.oid = d' := by
  rcases HashMap.lookup_insert_eq_some h with ⟨rfl, rfl⟩ | hold
  · rfl
  · exact hm d' entry hold

/-- Every step keeps the live entries under their own databases. -/
theorem ownOid_step (hs : s.OwnOid) (h : Transition s e s') : s'.OwnOid := by
  cases h with
  | started hphase =>
    rintro d entry (hpending | hworkers)
    · exact oid_of_lookup_insert (fun d entry h => hs d entry (Or.inl h)) hpending
    · exact hs d entry (Or.inr hworkers)
  | stopped hphase =>
    rw [shutdownAllWorkers_eq]
    rintro d entry (hpending | hworkers)
    · exact absurd hpending (by simp)
    · exact absurd hworkers (by simp)
  | handled hphase hhandling =>
    intro d entry hhas
    rw [(foldl_perform _ _ _).2] at hhas
    have hbefore := hhandling.has hhas
    cases hhandling with
    | start hstarted hworkers hpending =>
      rcases hhas with hpending | hworkers
      · exact oid_of_lookup_insert (fun d entry h => hs d entry (Or.inl h)) hpending
      · exact hs d entry (Or.inr hworkers)
    | _ => exact hs d entry (hbefore.resolve_right (by simp))
  | _ => exact hs

/-- A message that the launcher ignores does not move the machine. -/
theorem view_ignored {msg : LauncherMessage} {started : Option String} {delivered : Bool}
    (hshut : msg.ShutsDown → s.ctx.entry? msg.dbOid = none)
    (hforward : msg.forward? ≠ none → s.ctx.workers.lookup msg.dbOid = none)
    (hregister : msg = .dbExtensionStatus msg.dbOid .exist →
      s.ctx.pending_workers.lookup msg.dbOid = none)
    (hstart : ∀ config, msg = .newConfig msg.dbOid config → started.isSome →
      s.ctx.pending_workers.lookup msg.dbOid ≠ none) :
    (s.view msg.dbOid).handle started delivered msg = s.view msg.dbOid := by
  have hshutdown : msg.ShutsDown → (s.view msg.dbOid).shutdown = s.view msg.dbOid := by
    intro hmsg
    obtain ⟨hworkers, hpending⟩ := (s.ctx.entry?_eq_none _).mp (hshut hmsg)
    unfold View.shutdown view
    rw [hworkers, hpending]
    rfl
  have hregistered : msg.forward? ≠ none → (s.view msg.dbOid).registered = none := by
    intro hmsg
    unfold view
    rw [hforward hmsg]
    rfl
  cases msg with
  | dbExtensionStatus d status =>
    cases status with
    | exist =>
      have hpending := hregister rfl
      unfold View.handle View.register view
      rw [hpending]
      rfl
    | noExtension => exact hshutdown (show ExtensionStatus.noExtension ≠ .exist by simp)
    | noForeignServer => exact hshutdown (show ExtensionStatus.noForeignServer ≠ .exist by simp)
  | newConfig d config =>
    have hnone := hregistered (by simp [LauncherMessage.forward?])
    unfold View.handle View.configure
    rw [hnone]
    dsimp only
    -- A configuration is ignored for a pending worker, or when the start fails.
    cases hstarted : started with
    | none => split <;> first | rfl | exact absurd ‹none = some _› (by simp)
    | some name =>
      have hpending := hstart config rfl (by rw [hstarted]; rfl)
      obtain ⟨entry, hentry⟩ := Option.ne_none_iff_exists'.mp hpending
      have hview : (s.view (LauncherMessage.newConfig d config).dbOid).pending =
          some entry.db_name := congrArg (Option.map WorkerEntry.db_name) hentry
      rw [hview]
  | subscribe d subject fn_name =>
    have hnone := hregistered (by simp [LauncherMessage.forward?])
    unfold View.handle View.forward
    rw [hnone]
  | unsubscribe d subject fn_name =>
    have hnone := hregistered (by simp [LauncherMessage.forward?])
    unfold View.handle View.forward
    rw [hnone]
  | subscriberExit d reason => exact hshutdown trivial
  | foreignServerDropped d => exact hshutdown trivial

/-- What a message of the database does is what its machine does. -/
theorem view_handled (hs : s.OwnOid) {msg : LauncherMessage} {started : Option String}
    {delivered : Bool} {ctx : LauncherContext} {effect : Option Effect}
    (h : Handling s.ctx started msg ctx effect)
    (hs' : s' = effect.toList.foldl (perform delivered) { s with ctx }) :
    s'.view msg.dbOid = (s.view msg.dbOid).handle started delivered msg := by
  subst hs'
  cases h with
  | @register d entry hpending =>
    unfold View.handle View.register view
    dsimp only [Option.toList_none, List.foldl_nil, LauncherMessage.dbOid]
    rw [hpending, AList.lookup_erase, AList.lookup_insert]
    rfl
  | @shutdownRegistered msg entry hmsg hworkers =>
    have hoid := hs _ _ (Or.inr hworkers)
    rw [View.handle_of_shutsDown _ _ _ hmsg]
    unfold View.shutdown view
    simp only [Option.toList_some, List.foldl_cons, List.foldl_nil, perform]
    rw [hworkers, AList.lookup_erase, hoid, AList.lookup_insert]
    rfl
  | @shutdownPending msg entry hmsg hworkers hpending =>
    have hoid := hs _ _ (Or.inl hpending)
    rw [View.handle_of_shutsDown _ _ _ hmsg]
    unfold View.shutdown view
    simp only [Option.toList_some, List.foldl_cons, List.foldl_nil, perform]
    rw [hworkers, hpending, AList.lookup_erase, hoid, AList.lookup_insert]
    rfl
  | @forward msg m entry hmsg hworkers =>
    have hoid := hs _ _ (Or.inr hworkers)
    have hregistered : (s.view msg.dbOid).registered = some entry.db_name := by
      unfold view
      rw [hworkers]
      rfl
    rw [View.handle_of_forward _ _ _ hmsg hregistered]
    unfold View.forward
    rw [hregistered]
    simp only [Option.toList_some, List.foldl_cons, List.foldl_nil, perform]
    cases delivered with
    | true =>
      rw [if_pos rfl, if_pos rfl]
      unfold view
      simp only [List.filter_append, List.map_append, hoid, decide_true, List.filter_cons_of_pos,
        List.filter_nil, List.map_cons, List.map_nil, hworkers, Option.map_some]
    | false => rfl
  | @start d config db_name hstarted hworkers hpending =>
    unfold View.handle View.configure view
    simp only [Option.toList_some, List.foldl_cons, List.foldl_nil, perform,
      LauncherMessage.dbOid]
    rw [hworkers, hpending, hstarted, AList.lookup_insert]
    rfl
  | ignore hshut hforward hregister hstart =>
    exact (view_ignored hshut hforward hregister hstart).symm

/-- A message of another database does not move the machine. -/
theorem view_handled_of_ne (hs : s.OwnOid) {msg : LauncherMessage} {started : Option String}
    {delivered : Bool} {ctx : LauncherContext} {effect : Option Effect} {d : Oid}
    (hne : d ≠ msg.dbOid) (h : Handling s.ctx started msg ctx effect)
    (hs' : s' = effect.toList.foldl (perform delivered) { s with ctx }) :
    s'.view d = s.view d := by
  obtain ⟨hpending', hworkers'⟩ := h.lookup_of_ne hne
  have hctx : s'.ctx = ctx := hs' ▸ (foldl_perform delivered _ effect).2
  refine view_congr (hctx ▸ hpending') (hctx ▸ hworkers') ?_ ?_
  · rw [hctx]
    cases h with
    | shutdownRegistered hmsg hworkers =>
      have hoid := hs _ _ (Or.inr hworkers)
      exact AList.lookup_insert_ne (hoid ▸ hne)
    | shutdownPending hmsg hworkers hpending =>
      have hoid := hs _ _ (Or.inl hpending)
      exact AList.lookup_insert_ne (hoid ▸ hne)
    | _ => rfl
  · subst hs'
    cases h with
    | @forward msg m entry hmsg hworkers =>
      have hoid : entry.oid ≠ d := fun heq => hne (heq.symm.trans (hs _ _ (Or.inr hworkers)))
      simp only [Option.toList_some, List.foldl_cons, List.foldl_nil, perform]
      cases delivered with
      | true => simp [List.filter_append, hoid]
      | false => rfl
    | _ => rfl

/-! ## The runs -/

/-- What the main loop comes to. -/
inductive Input where
  /-- A round ends, and the next one begins with the wait for the terminated workers. -/
  | round
  /-- A buffer of the bus, which holds a message or is not decoded. -/
  | buffer (msg : Option LauncherMessage)
  deriving DecidableEq

/-- Whether an input is about a database: its own messages are, and the rounds of the main loop. -/
def Input.concerns (d : Oid) : Input → Bool
  | .round => true
  | .buffer msg => msg.any fun msg => msg.dbOid == d

/-- The outcomes of the starts and the forwards, each of them a function of the database and of what
has happened that concerns it. -/
structure Outcomes where
  /-- The name of the database when a start succeeds. -/
  start : Oid → List Input → Option String
  /-- Whether a forward succeeds. -/
  forward : Oid → List Input → Bool

/-- The events of the inputs, after a history. -/
def events (o : Outcomes) (history : List Input) : List Input → List Event
  | [] => []
  | .round :: inputs => .empty :: .latch true :: events o (history ++ [.round]) inputs
  | .buffer none :: inputs => .recv none none false :: events o (history ++ [.buffer none]) inputs
  | .buffer (some msg) :: inputs =>
    let own := history.filter (Input.concerns msg.dbOid)
    .recv (some msg) (o.start msg.dbOid own) (o.forward msg.dbOid own) ::
      events o (history ++ [.buffer (some msg)]) inputs

/-- The events of the start-up, up to the first drain. -/
def startUp (boot : Oid → Option String) (oids : List Oid) : List Event :=
  oids.map (fun oid => .boot (boot oid)) ++ [.boot none, .latch true]

/-- The machine of a database over its inputs, after a history. -/
def View.run (o : Outcomes) (d : Oid) (v : View) (history : List Input) : List Input → View
  | [] => v
  | .round :: inputs => View.run o d v.wait (history ++ [.round]) inputs
  | .buffer none :: inputs => View.run o d v history inputs
  | .buffer (some msg) :: inputs =>
    View.run o d (v.handle (o.start d history) (o.forward d history) msg)
      (history ++ [.buffer (some msg)]) inputs

/-- In a drain the launcher handles any message. -/
theorem step_recv (hphase : s.phase = .draining) (msg : LauncherMessage)
    (started : Option String) (delivered : Bool) :
    ∃ s', s.step (.recv (some msg) started delivered) = some s' ∧ s'.phase = .draining ∧
      ∃ ctx effect, Handling s.ctx started msg ctx effect ∧
        s' = effect.toList.foldl (perform delivered) { s with ctx } := by
  have hstep : s.step (.recv (some msg) started delivered) =
      some ((s.ctx.handle started msg).2.toList.foldl (perform delivered)
        { s with ctx := (s.ctx.handle started msg).1 }) := by
    unfold step
    rw [hphase]
  refine ⟨_, hstep, ?_, _, _, LauncherContext.handling_of_handle s.ctx started msg, rfl⟩
  rw [(foldl_perform delivered _ _).1]
  exact hphase

/-- From a drain on, a run leaves of a database what the inputs that concern the database make of
it. -/
theorem view_of_run (o : Outcomes) (d : Oid) (inputs : List Input) :
    ∀ (s : Launcher) (history : List Input), s.OwnOid → s.phase = .draining →
      ∃ s', Run.run step s (events o history inputs) = some s' ∧
        s'.view d = View.run o d (s.view d) (history.filter (Input.concerns d))
          (inputs.filter (Input.concerns d)) := by
  induction inputs with
  | nil => exact fun s history _ _ => ⟨s, rfl, rfl⟩
  | cons input inputs ih =>
    intro s history hs hphase
    have hhistory : (history ++ [input]).filter (Input.concerns d) =
        history.filter (Input.concerns d) ++ [input].filter (Input.concerns d) :=
      List.filter_append _ _
    cases input with
    | round =>
      have hempty : s.step .empty = some { s with phase := .waiting } := by
        unfold step
        rw [hphase]
      obtain ⟨s', hrun, hview⟩ := ih
        { Launcher.waitTerminated { s with phase := .waiting } with phase := .draining }
        (history ++ [.round]) hs rfl
      refine ⟨s', Run.run_cons_eq_some.mpr ⟨_, hempty, Run.run_cons_eq_some.mpr ⟨_, rfl, hrun⟩⟩, ?_⟩
      rw [hview, hhistory]
      rfl
    | buffer msg =>
      cases msg with
      | none =>
        have hskip : s.step (.recv none none false) = some s := by
          unfold step
          rw [hphase]
        obtain ⟨s', hrun, hview⟩ := ih s (history ++ [.buffer none]) hs hphase
        refine ⟨s', Run.run_cons_eq_some.mpr ⟨s, hskip, hrun⟩, ?_⟩
        have hnone : [Input.buffer none].filter (Input.concerns d) = [] := rfl
        rw [hview, hhistory, hnone, List.append_nil]
        rfl
      | some msg =>
        obtain ⟨t, hstep, hdraining, ctx, effect, hhandling, ht⟩ := step_recv hphase msg
          (o.start msg.dbOid (history.filter (Input.concerns msg.dbOid)))
          (o.forward msg.dbOid (history.filter (Input.concerns msg.dbOid)))
        have hown : t.OwnOid := ownOid_step hs (transition_of_step hstep)
        obtain ⟨s', hrun, hview⟩ := ih t (history ++ [.buffer (some msg)]) hown hdraining
        refine ⟨s', Run.run_cons_eq_some.mpr ⟨t, hstep, hrun⟩, ?_⟩
        rw [hview, hhistory]
        rcases eq_or_ne d msg.dbOid with rfl | hne
        -- A message of the database moves its machine.
        · have hconcerns : Input.concerns msg.dbOid (.buffer (some msg)) = true :=
            beq_self_eq_true _
          rw [List.filter_cons_of_pos hconcerns, List.filter_cons_of_pos hconcerns,
            view_handled hs hhandling ht]
          rfl
        -- A message of another database is in neither history.
        · have hconcerns : ¬ Input.concerns d (.buffer (some msg)) = true :=
            fun h => hne (beq_iff_eq.mp h).symm
          rw [List.filter_cons_of_neg hconcerns, List.filter_cons_of_neg hconcerns,
            view_handled_of_ne hs hne hhandling ht, List.filter_nil, List.append_nil]

/-- The registration of the start-up's workers comes to its end. -/
theorem run_boots (boot : Oid → Option String) : ∀ (oids : List Oid) (s : Launcher),
    s.phase = .starting oids → s.OwnOid →
      ∃ s', Run.run step s (oids.map fun oid => .boot (boot oid)) = some s' ∧
        s'.phase = .starting [] ∧ s'.OwnOid := by
  intro oids
  induction oids with
  | nil => exact fun s hphase hs => ⟨s, rfl, hphase, hs⟩
  | cons oid oids ih =>
    intro s hphase hs
    obtain ⟨t, hstep, hstarting⟩ :
        ∃ t, s.step (.boot (boot oid)) = some t ∧ t.phase = .starting oids := by
      unfold step
      rw [hphase]
      exact ⟨_, rfl, (foldl_perform true _ _).1⟩
    obtain ⟨s', hrun, hphase', hs'⟩ := ih t hstarting (ownOid_step hs (transition_of_step hstep))
    exact ⟨s', Run.run_cons_eq_some.mpr ⟨t, hstep, hrun⟩, hphase', hs'⟩

/-- The start-up ends in a drain, with every live entry under its own database. -/
theorem run_startUp (boot : Oid → Option String) (oids : List Oid) :
    ∃ s, Run.run step (init oids) (startUp boot oids) = some s ∧ s.OwnOid ∧
      s.phase = .draining := by
  have hinit : (init oids).OwnOid := by
    rintro d entry (h | h) <;> exact absurd h (by simp [init, LauncherContext.default])
  obtain ⟨s, hrun, hphase, hs⟩ := run_boots boot oids (init oids) rfl hinit
  have hbooted : s.step (.boot none) = some { s with phase := .waiting } := by
    unfold step
    rw [hphase]
  refine ⟨{ Launcher.waitTerminated { s with phase := .waiting } with phase := .draining }, ?_, hs,
    rfl⟩
  unfold startUp
  rw [Run.run_append, hrun, Option.bind_some, Run.run, hbooted]
  rfl

/-- What the launcher has for a database after any inputs is what it has after those that concern
the database: which of the three maps have an entry, and what was sent to the workers. The outcomes
for the database depend on its own history. -/
theorem databases_isolated (boot : Oid → Option String) (oids : List Oid) (o : Outcomes)
    (inputs : List Input) (d : Oid) :
    ∃ s s', Run.run step (init oids) (startUp boot oids ++ events o [] inputs) = some s ∧
      Run.run step (init oids)
        (startUp boot oids ++ events o [] (inputs.filter (Input.concerns d))) = some s' ∧
      s.view d = s'.view d := by
  obtain ⟨s₀, hstart, hs₀, hphase⟩ := run_startUp boot oids
  obtain ⟨s, hrun, hview⟩ := view_of_run o d inputs s₀ [] hs₀ hphase
  obtain ⟨s', hrun', hview'⟩ :=
    view_of_run o d (inputs.filter (Input.concerns d)) s₀ [] hs₀ hphase
  refine ⟨s, s', ?_, ?_, ?_⟩
  · rw [Run.run_append, hstart]
    exact hrun
  · rw [Run.run_append, hstart]
    exact hrun'
  · rw [hview, hview', List.filter_filter]
    simp only [Bool.and_self]

end PgNats.Launcher
