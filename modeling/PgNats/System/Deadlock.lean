import PgNats.Lib.Run
import PgNats.System.Views

/-!
# The launcher and a subscriber waiting for each other

The launcher holds the lock of the bus while it forwards. The receiver of a forward lets it return
by reading, once it is in its loop, or by detaching, once it has been there. A receiver that has
never attached and wants to report takes the lock first, and then neither goes on:
`deadlock_forever`.

`no_deadlock_iff` says which steps lead there. The launcher must not begin a forward to a worker
that is at a report and has never attached, and a worker to which the launcher is sending must
neither find out its status nor give up its start-up. The code has no guard against the last: a
worker is registered by its report, and from then on it receives, but it attaches only once it is
connected, and when the connection fails it goes back to the bus.
-/

namespace PgNats

/-- The process is about to report, for which it takes the lock of the bus. -/
def Pc.Reports : Pc → Prop
  | .reporting _ => True
  | .leaving _ _ => True
  | _ => False

/-- The process is about to report and has never attached to its queue. -/
def Pc.ReportsUnattached : Pc → Prop
  | .reporting _ => True
  | .leaving attached _ => attached = false
  | _ => False

instance (pc : Pc) : Decidable pc.ReportsUnattached := by
  unfold Pc.ReportsUnattached
  cases pc <;> infer_instance

namespace System

/-- The launcher is blocked in its send to this worker: the receiver neither reads, nor has it
detached. -/
def Blocked (s : System) (g : ℕ) : Prop :=
  (∃ msg, s.launcher = .sending g msg) ∧ step s .sent = none ∧ step s .sendFailed = none

/-- This worker waits for the lock of the bus, which the launcher holds. -/
def Waits (s : System) (g : ℕ) : Prop :=
  s.Locked ∧ ∃ p, s.procs[g]? = some p ∧ p.pc.Reports

/-- The launcher is blocked in a send with the lock, and the receiver waits for the lock. -/
def Deadlock (s : System) : Prop := ∃ g, s.Blocked g ∧ s.Waits g

/-- The launcher is in its send to this worker. -/
def SendsTo (s : System) (g : ℕ) : Prop :=
  match s.launcher with
  | .sending worker _ => worker = g
  | _ => False

instance (s : System) (g : ℕ) : Decidable (s.SendsTo g) :=
  match h : s.launcher with
  | .sending worker _ => decidable_of_iff (worker = g) (by unfold SendsTo; rw [h])
  | .starting _ => .isFalse (by unfold SendsTo; rw [h]; exact id)
  | .idle => .isFalse (by unfold SendsTo; rw [h]; exact id)
  | .draining => .isFalse (by unfold SendsTo; rw [h]; exact id)

/-- The worker to which the launcher forwards the next message of the bus, if it forwards it. -/
def nextReceiver (s : System) : Option Proc :=
  match s.bus with
  | item :: _ =>
    if item.msg.forward?.isSome then
      (s.ctx.workers.lookup item.msg.dbOid).bind fun entry => s.procs[entry.worker]?
    else none
  | [] => none

/-- The condition on a step: a forward does not begin to a worker that is at a report and has never
attached, and a worker does not get there while the launcher is sending to it. -/
def ForwardSafe (s : System) : Event → Prop
  | .recv _ => ∀ p ∈ s.nextReceiver, ¬ p.pc.ReportsUnattached
  | .proc g .check => ¬ s.SendsTo g
  | .proc g (.fail _) => ¬ s.SendsTo g
  | _ => True

instance (s : System) : ∀ e, Decidable (s.ForwardSafe e) := Event.Decisions.decidable {
  recv := fun _ => inferInstanceAs (Decidable (∀ p ∈ s.nextReceiver, ¬ p.pc.ReportsUnattached))
  proc := fun g => ProcEvent.Decisions.decidable {
    check := inferInstanceAs (Decidable (¬ s.SendsTo g))
    fail := fun _ => inferInstanceAs (Decidable (¬ s.SendsTo g)) } }

variable {s s' : System} {e : Event}

/-- The worker of a send. -/
theorem sendsTo_iff {g : ℕ} : s.SendsTo g ↔ ∃ msg, s.launcher = .sending g msg := by
  unfold SendsTo
  constructor
  · intro h
    split at h
    · next worker msg hlauncher => exact ⟨msg, h ▸ hlauncher⟩
    · exact h.elim
  · rintro ⟨msg, hlauncher⟩
    rw [hlauncher]

/-- A launcher that is sending holds the lock. -/
theorem SendsTo.locked {g : ℕ} (h : s.SendsTo g) : s.Locked := by
  obtain ⟨msg, hlauncher⟩ := sendsTo_iff.mp h
  unfold Locked
  rw [hlauncher]
  trivial

/-- In a deadlock the receiver is at a report and has never attached, and the other way round. -/
theorem deadlock_iff :
    s.Deadlock ↔ ∃ g p, s.SendsTo g ∧ s.procs[g]? = some p ∧ p.pc.ReportsUnattached := by
  constructor
  · rintro ⟨g, ⟨⟨msg, hlauncher⟩, -, hfailed⟩, -, p, hproc, hreports⟩
    refine ⟨g, p, sendsTo_iff.mpr ⟨msg, hlauncher⟩, hproc, ?_⟩
    cases hpc : p.pc with
    | reporting status => trivial
    | leaving attached reason =>
      -- A receiver that has detached again makes the send fail.
      cases attached with
      | false => rfl
      | true =>
        unfold step at hfailed
        simp [hlauncher, hproc, hpc] at hfailed
    | _ => rw [hpc] at hreports; exact hreports.elim
  · rintro ⟨g, p, hsends, hproc, hreports⟩
    obtain ⟨msg, hlauncher⟩ := sendsTo_iff.mp hsends
    refine ⟨g, ⟨⟨msg, hlauncher⟩, ?_, ?_⟩, hsends.locked, p, hproc, ?_⟩
    · cases hpc : p.pc with
      | looping sub => rw [hpc] at hreports; exact hreports.elim
      | _ => simp [step, hlauncher, hproc, hpc]
    · cases hpc : p.pc with
      | leaving attached reason =>
        obtain rfl : attached = false := by rw [hpc] at hreports; exact hreports
        simp [step, hlauncher, hproc, hpc]
      | exited attached => rw [hpc] at hreports; exact hreports.elim
      | _ => simp [step, hlauncher, hproc, hpc]
    · cases hpc : p.pc with
      | reporting status => trivial
      | leaving attached reason => trivial
      | _ => rw [hpc] at hreports; exact hreports.elim

/-- A process that is not at a report gets to one only by its check, or by a failure. -/
theorem reportsUnattached_cause {p : Proc} {catalog : Catalog} {pe : ProcEvent} {r : ProcStep}
    (h : ProcTransition p catalog pe r) (hbefore : ¬ p.pc.ReportsUnattached)
    (hafter : r.pc.ReportsUnattached) : pe = .check ∨ ∃ reason, pe = .fail reason := by
  cases h with
  | check hpc => exact Or.inl rfl
  | fail hpc => exact Or.inr ⟨_, rfl⟩
  | reportOther hpc hstatus => exact absurd (by rw [hpc]; trivial) hbefore
  | reportRefused hpc => exact absurd (by rw [hpc]; trivial) hbefore
  | leave hpc hcause => exact absurd hafter (by simp [Pc.ReportsUnattached])
  | _ => exact hafter.elim

/-- A check leads to a report, and so does a failure. -/
theorem reportsUnattached_of_cause {p : Proc} {catalog : Catalog} {pe : ProcEvent} {r : ProcStep}
    (h : ProcTransition p catalog pe r) (he : pe = .check ∨ ∃ reason, pe = .fail reason) :
    r.pc.ReportsUnattached := by
  rcases he with rfl | ⟨reason, rfl⟩
  · cases h with
    | check hpc => trivial
  · cases h with
    | fail hpc => rfl

/-- When the next message is forwarded, its receiver is the registered worker. -/
theorem nextReceiver_eq {item : Item} {rest : List Item} {entry : WorkerEntry}
    {m : SubscriberMessage} (hbus : s.bus = item :: rest) (hforward : item.msg.forward? = some m)
    (hworkers : s.ctx.workers.lookup item.msg.dbOid = some entry) :
    s.nextReceiver = s.procs[entry.worker]? := by
  unfold nextReceiver
  rw [hbus]
  dsimp only
  rw [hforward, hworkers]
  rfl

/-- Where there is a next receiver, handling the next message begins a forward to it. -/
theorem effect_of_nextReceiver {item : Item} {rest : List Item} {started : Option String}
    {ctx : LauncherContext} {effect : Option Effect} {p : Proc} (hbus : s.bus = item :: rest)
    (hhandling : Handling s.ctx started item.msg ctx effect) (hnext : s.nextReceiver = some p) :
    ∃ entry m, effect = some (.send entry m) ∧ s.procs[entry.worker]? = some p := by
  unfold nextReceiver at hnext
  rw [hbus] at hnext
  dsimp only at hnext
  split_ifs at hnext with hforward
  obtain ⟨m, hm⟩ := Option.isSome_iff_exists.mp hforward
  obtain ⟨entry, hworkers, hproc⟩ := Option.bind_eq_some_iff.mp hnext
  exact ⟨entry, m, (hhandling.of_registered hm hworkers).2, hproc⟩

/-- A launcher that is sending was sending before the step, or it begins a forward. -/
theorem sendsTo_of_step (h : Transition s e s') {g : ℕ} (hsends : s'.SendsTo g) :
    (s.SendsTo g ∧ s'.launcher = s.launcher ∧ ∀ started, e ≠ .recv started) ∨
      ∃ started entry, e = .recv started ∧ entry.worker = g ∧
        s.nextReceiver = s.procs[entry.worker]? ∧ ∃ d, s.ctx.Has d entry := by
  obtain ⟨msg, hlauncher'⟩ := sendsTo_iff.mp hsends
  rcases sending_of_step h hlauncher' with ⟨hlauncher, -, hnot⟩ |
      ⟨started, item, entry, he, hbus, -, hforward, hworkers, hworker⟩
  · exact Or.inl ⟨sendsTo_iff.mpr ⟨msg, hlauncher⟩, hlauncher'.trans hlauncher.symm, hnot⟩
  · have hnext := nextReceiver_eq hbus hforward hworkers
    exact Or.inr ⟨started, entry, he, hworker, hnext, _, Or.inr hworkers⟩

/-- A send ends when its receiver reads, or because it has detached. -/
theorem send_ends (h : Transition s e s') {g : ℕ} (hsends : s.SendsTo g) (hends : ¬ s'.SendsTo g) :
    ∃ p, s.procs[g]? = some p ∧ ((e = .sent ∧ ∃ sub, p.pc = .looping sub) ∨
      (∃ reason, p.pc = .leaving true reason) ∨ p.pc = .exited true) := by
  obtain ⟨msg, hlauncher⟩ := sendsTo_iff.mp hsends
  rcases sending_after h hlauncher with hlauncher' | hended
  · exact absurd (sendsTo_iff.mpr ⟨msg, hlauncher'⟩) hends
  · exact hended

/-- A step that meets the condition leads to no deadlock. -/
theorem not_deadlock_step (hs : ¬ s.Deadlock) (hok : s.ForwardSafe e) (h : step s e = some s') :
    ¬ s'.Deadlock := by
  rw [deadlock_iff] at hs ⊢
  rintro ⟨g, p', hsends', hproc', hreports⟩
  have h := transition_of_step h
  rcases proc_before h hproc' with ⟨p, hproc, hchange⟩ | ⟨d, db_name, -, -, rfl⟩
  · rcases sendsTo_of_step h hsends' with ⟨hsends, -, -⟩ | ⟨started, entry, rfl, rfl, hnext, -⟩
    · have hbefore : ¬ p.pc.ReportsUnattached := fun hr => hs ⟨g, p, hsends, hproc, hr⟩
      cases hchange with
      | same terminating hterminating hother => exact hbefore hreports
      | received he hlauncher hlauncher' hpc => exact hreports
      | moved he hlock hstep hs' =>
        -- The receiver itself makes the step, and it cannot report.
        rw [he] at hok
        rcases reportsUnattached_cause hstep hbefore hreports with rfl | ⟨reason, rfl⟩
        · exact hok hsends
        · exact hok hsends
    · cases hchange with
      | same terminating hterminating hother => exact hok p (hnext.trans hproc) hreports
      | received he hlauncher hlauncher' hpc => exact hreports
      | moved he hlock hstep hs' => exact absurd he (by simp)
  · exact hreports

/-- A step that breaks the condition leads to a deadlock. -/
theorem deadlock_step (hok : ¬ s.ForwardSafe e) (h : step s e = some s') : s'.Deadlock := by
  rw [deadlock_iff]
  cases transition_of_step h with
  | recv hlauncher hbus hhandling =>
    unfold ForwardSafe at hok
    push Not at hok
    obtain ⟨p, hnext, hreports⟩ := hok
    obtain ⟨entry, m, rfl, hproc⟩ := effect_of_nextReceiver hbus hhandling hnext
    exact ⟨entry.worker, p, sendsTo_iff.mpr ⟨m, rfl⟩, hproc, hreports⟩
  | @proc g pe p r hproc hlock hstep =>
    have hcause : (pe = .check ∨ ∃ reason, pe = .fail reason) ∧ s.SendsTo g := by
      cases pe with
      | check => exact ⟨Or.inl rfl, not_not.mp hok⟩
      | fail reason => exact ⟨Or.inr ⟨reason, rfl⟩, not_not.mp hok⟩
      | _ => exact absurd trivial hok
    obtain ⟨hcause, hsends⟩ := hcause
    have hreports := reportsUnattached_of_cause hstep hcause
    obtain ⟨msg, hlauncher⟩ := sendsTo_iff.mp hsends
    refine ⟨g, { p with pc := r.pc }, sendsTo_iff.mpr ⟨msg, hlauncher⟩, ?_, hreports⟩
    exact List.getElem?_set_self (List.getElem?_eq_some_iff.mp hproc).1
  | backend hstep => cases hstep <;> exact absurd trivial hok
  | _ => exact absurd trivial hok

/-- A process at a report goes on only with the lock. -/
theorem locks_of_reports {p : Proc} {catalog : Catalog} {pe : ProcEvent} {r : ProcStep}
    (h : ProcTransition p catalog pe r) (hreports : p.pc.ReportsUnattached) : pe.locks = true := by
  cases h with
  | reportExist hpc => rfl
  | reportOther hpc hstatus => rfl
  | reportRefused hpc => rfl
  | exit hpc => rfl
  | exitRefused hpc => rfl
  | fail hpc =>
    rcases hpc with hpc | ⟨config, hpc⟩ | ⟨config, hpc⟩ <;>
      exact absurd hreports (by rw [hpc]; exact id)
  | abandon hpc => exact absurd hreports (by rw [hpc]; exact id)
  | check hpc => exact absurd hreports (by rw [hpc]; exact id)
  | fetch hpc => exact absurd hreports (by rw [hpc]; exact id)
  | connect hpc => exact absurd hreports (by rw [hpc]; exact id)
  | attach hpc => exact absurd hreports (by rw [hpc]; exact id)
  | loop hpc henabled hstep => exact absurd hreports (by rw [hpc]; exact id)
  | leave hpc hcause => exact absurd hreports (by rw [hpc]; exact id)

/-- No step ends a deadlock: the launcher never returns from its send, and nobody else gets the
lock. -/
theorem deadlock_forever (hs : s.Deadlock) (h : step s e = some s') : s'.Deadlock := by
  rw [deadlock_iff] at hs ⊢
  obtain ⟨g, p, hsends, hproc, hreports⟩ := hs
  have h := transition_of_step h
  have hreads : ∀ sub, p.pc ≠ .looping sub := by
    intro sub hpc
    rw [hpc] at hreports
    exact hreports
  -- The receiver neither reads nor has it detached, so the send goes on.
  have hsends' : s'.SendsTo g := by
    by_contra hends
    obtain ⟨q, hq, hcause⟩ := send_ends h hsends hends
    obtain rfl := Option.some.inj (hproc.symm.trans hq)
    rcases hcause with ⟨-, sub, hpc⟩ | ⟨reason, hpc⟩ | hpc
    · exact hreads sub hpc
    · exact absurd (show true = false by rw [hpc] at hreports; exact hreports) (by simp)
    · exact absurd hreports (by rw [hpc]; exact id)
  obtain ⟨p', hproc', hchange⟩ := proc_after h hproc
  refine ⟨g, p', hsends', hproc', ?_⟩
  cases hchange with
  | same terminating hterminating hother => exact hreports
  | received he hlauncher hlauncher' hpc => exact absurd hpc (hreads _)
  -- And the receiver itself would need the lock.
  | moved he hlock hstep hs' =>
    exact absurd hsends.locked (hlock (locks_of_reports hstep hreports))

/-- A run meets the condition at every step exactly when it passes through no deadlock. -/
theorem no_deadlock_iff (oids : List Oid) (catalog : Oid → Catalog) {es : List Event} {s : System}
    (h : Run.run step (init oids catalog) es = some s) :
    Run.RunAll step ForwardSafe (init oids catalog) es ↔
      ∀ pre, pre <+: es → ∀ t, Run.run step (init oids catalog) pre = some t → ¬ t.Deadlock := by
  have hinit : ¬ (init oids catalog).Deadlock := by
    rw [deadlock_iff]
    rintro ⟨g, p, hsends, -⟩
    exact hsends
  have hkeep : ∀ s e s', ¬ s.Deadlock → s.ForwardSafe e → step s e = some s' → ¬ s'.Deadlock :=
    fun _ _ _ hs hok hstep => not_deadlock_step hs hok hstep
  have hbreak : ∀ s e s', ¬ s.Deadlock → ¬ s.ForwardSafe e → step s e = some s' →
      ¬ ¬ s'.Deadlock := fun _ _ _ _ hok hstep => not_not.mpr (deadlock_step hok hstep)
  exact Run.runAll_iff_forall_prefix (fun _ hs => hs) hkeep hbreak hinit h

/-- A configured database. -/
def configured : Catalog := { installed := true, servers := [⟨"nats", []⟩], table := ⟨[], []⟩ }

/-- The subscriber of a configured database is registered, connects, attaches, and then gets a
forward: this run passes through no deadlock. -/
theorem attached_no_deadlock :
    ∃ s, Run.run step (init [5] fun _ => configured)
        [.boot (some "db"), .boot none, .proc 0 .check, .proc 0 (.report true),
          .request true 5 "a" "f", .proc 0 .fetch, .proc 0 .connect,
          .proc 0 (.attach ⟨.master, true, ⟨none, none, id⟩, true⟩), .wake, .recv none, .recv none,
          .sent] = some s ∧
      ¬ s.Deadlock := by
  obtain ⟨s, hrun⟩ : ∃ s, Run.run step (init [5] fun _ => configured)
      [.boot (some "db"), .boot none, .proc 0 .check, .proc 0 (.report true),
        .request true 5 "a" "f", .proc 0 .fetch, .proc 0 .connect,
        .proc 0 (.attach ⟨.master, true, ⟨none, none, id⟩, true⟩), .wake, .recv none, .recv none,
        .sent] = some s := ⟨_, rfl⟩
  refine ⟨s, hrun, ?_⟩
  exact (no_deadlock_iff [5] (fun _ => configured) hrun).mp (by decide) _ List.prefix_rfl s hrun

/-- The subscriber is registered by its report. A request is forwarded to it while it connects, and
the connection fails: the launcher waits with the lock for a receiver that waits for the lock. -/
theorem connection_fails_deadlock :
    ∃ s, Run.run step (init [5] fun _ => configured)
        [.boot (some "db"), .boot none, .proc 0 .check, .proc 0 (.report true),
          .request true 5 "a" "f", .wake, .recv none, .recv none, .proc 0 .fetch,
          .proc 0 (.fail "connection refused")] = some s ∧
      s.Deadlock := by
  refine ⟨_, rfl, deadlock_iff.mpr ⟨0, _, rfl, rfl, rfl⟩⟩

end System

end PgNats
