import PgNats.System.Deadlock
import PgNats.System.WellFormed

/-!
# What becomes of an accepted request

A backend's `nats_subscribe` or `nats_unsubscribe` is answered once the bus has its message. Later
the launcher takes it off the bus and forwards it to the registered worker of its database. While
the worker is pending, the launcher drops it and logs that it is registered.

`requests_kept` says when no request is lost. The launcher must not handle a request while the
worker of its database is pending, a send must not begin to a worker that never attaches, and the
bus must take the report of every worker that exits: an entry whose worker is gone without a report
stays, and what is forwarded to it is lost. Then the requests handled for a worker are, in the order
in which the bus accepted them, the ones that came through its queue and the one in flight, as long
as the worker is not about to be shut down. The invariant is `Kept`.
-/

namespace PgNats

/-- The request of a backend, as it is forwarded. -/
def LauncherMessage.request? : LauncherMessage → Option SubscriberMessage
  | .subscribe _ subject fn_name => some (.subscribe subject fn_name)
  | .unsubscribe _ subject fn_name => some (.unsubscribe subject fn_name)
  | _ => none

/-- Whether the message is the report of an exit. -/
def LauncherMessage.isExit : LauncherMessage → Bool
  | .subscriberExit _ _ => true
  | _ => false

/-- Whether the message is a request. -/
def SubscriberMessage.isRequest : SubscriberMessage → Bool
  | .newConfig _ => false
  | .subscribe _ _ => true
  | .unsubscribe _ _ => true

/-- Whether the process has left its loop or its start-up, and has still to report that. -/
def Pc.isLeaving : Pc → Bool
  | .leaving _ _ => true
  | _ => false

/-- Whether the process is gone. -/
def Pc.isExited : Pc → Bool
  | .exited _ => true
  | _ => false

/-- Whether a send to the process returns in the end: the process has made its report and comes to
its loop unless its start-up fails, or it has been there. -/
def Pc.receives : Pc → Bool
  | .starting => false
  | .reporting _ => false
  | .fetching => true
  | .connecting _ => true
  | .attaching _ => true
  | .looping _ => true
  | .leaving attached _ => attached
  | .exited attached => attached

namespace System

/-- The worker's own report is about to shut it down: the process has left, and the report of its
exit is still to come or on the bus. -/
def Departing (s : System) (g : ℕ) : Prop :=
  ∃ p ∈ s.procs[g]?, p.pc.isLeaving ∨
    (p.pc.isExited ∧ ∃ item ∈ s.bus, item.sender = some g ∧ item.msg.isExit)

instance (s : System) (g : ℕ) : Decidable (s.Departing g) :=
  inferInstanceAs (Decidable (∃ p ∈ s.procs[g]?, p.pc.isLeaving ∨
    (p.pc.isExited ∧ ∃ item ∈ s.bus, item.sender = some g ∧ item.msg.isExit)))

/-- The requests among the messages that the launcher handled while this worker was that of their
database. -/
def requestsFor (taken : List (LauncherMessage × Option ℕ)) (g : ℕ) : List SubscriberMessage :=
  taken.filterMap fun (msg, worker) => if worker = some g then msg.request? else none

/-- The request that the launcher is sending to this worker, if there is one. -/
def inFlight (s : System) (g : ℕ) : List SubscriberMessage :=
  match s.launcher with
  | .sending worker msg => if worker = g ∧ msg.isRequest then [msg] else []
  | _ => []

/-- No accepted request is lost: the bus is first in, first out, and for every worker with an entry
that is not about to be shut down, the requests handled for it are those that came through its queue
and the one in flight, in order. -/
def RequestsKept (s : System) : Prop :=
  s.accepted = s.taken.map Prod.fst ++ s.bus.map Item.msg ∧
    ∀ d entry p, s.ctx.Has d entry → s.procs[entry.worker]? = some p → ¬ s.Departing entry.worker →
      p.delivered.filter SubscriberMessage.isRequest ++ s.inFlight entry.worker =
        requestsFor s.taken entry.worker

/-- The pending worker of the database of the next message, if that is a request. -/
def nextDropped (s : System) : Option WorkerEntry :=
  match s.bus with
  | item :: _ =>
    if item.msg.request?.isSome then s.ctx.pending_workers.lookup item.msg.dbOid else none
  | [] => none

/-- The condition on a step. A request is not handled while the worker of its database is pending,
unless that worker is about to be shut down, and a send does not begin to a worker that never
attaches. The start-up of a worker does not fail during a send to it. The bus takes every report of
an exit. -/
def RequestSafe (s : System) : Event → Prop
  | .recv _ => (∀ entry ∈ s.nextDropped, s.Departing entry.worker) ∧
      ∀ p ∈ s.nextReceiver, p.pc.receives
  | .proc g (.fail _) => ¬ s.SendsTo g
  | .proc _ (.exit room) => room = true
  | _ => True

instance (s : System) : ∀ e, Decidable (s.RequestSafe e) := Event.Decisions.decidable {
  recv := fun _ => inferInstanceAs (Decidable ((∀ entry ∈ s.nextDropped, s.Departing entry.worker) ∧
    ∀ p ∈ s.nextReceiver, p.pc.receives))
  proc := fun g => ProcEvent.Decisions.decidable {
    fail := fun _ => inferInstanceAs (Decidable (¬ s.SendsTo g))
    exit := fun room => inferInstanceAs (Decidable (room = true)) } }

variable {s s' : System} {e : Event}

/-- A request is forwarded as itself. -/
theorem forward?_of_request? {msg : LauncherMessage} {m : SubscriberMessage}
    (h : msg.request? = some m) : msg.forward? = some m ∧ m.isRequest = true := by
  cases msg with
  | subscribe d subject fn_name => obtain rfl := Option.some.inj h; exact ⟨rfl, rfl⟩
  | unsubscribe d subject fn_name => obtain rfl := Option.some.inj h; exact ⟨rfl, rfl⟩
  | _ => exact absurd h (by simp [LauncherMessage.request?])

/-- What is forwarded and not a request is a configuration. -/
theorem isRequest_of_forward? {msg : LauncherMessage} {m : SubscriberMessage}
    (h : msg.forward? = some m) (hrequest : msg.request? = none) : m.isRequest = false := by
  cases msg with
  | newConfig d config => obtain rfl := Option.some.inj h; rfl
  | subscribe d subject fn_name => exact absurd hrequest (by simp [LauncherMessage.request?])
  | unsubscribe d subject fn_name => exact absurd hrequest (by simp [LauncherMessage.request?])
  | _ => exact absurd h (by simp [LauncherMessage.forward?])

/-- A launcher that is not sending to a worker has nothing in flight to it. -/
theorem inFlight_eq_nil {g : ℕ} (h : ¬ s.SendsTo g) : s.inFlight g = [] := by
  unfold inFlight
  split
  · next worker msg hlauncher =>
    refine if_neg fun hboth => h (sendsTo_iff.mpr ⟨msg, ?_⟩)
    rw [← hboth.1]
    exact hlauncher
  · rfl

/-- What is in flight depends on the launcher only. -/
theorem inFlight_congr {g : ℕ} (h : s'.launcher = s.launcher) : s'.inFlight g = s.inFlight g := by
  unfold inFlight
  rw [h]

/-- The invariant. -/
structure Kept (s : System) : Prop where
  /-- No accepted request is lost. -/
  requests : s.RequestsKept
  /-- The messages are handled for processes that there are. -/
  known : ∀ msg g, (msg, some g) ∈ s.taken → ∃ p, s.procs[g]? = some p
  /-- An entry whose worker has attached and exited is about to be shut down. -/
  detached : ∀ d entry p, s.ctx.Has d entry → s.procs[entry.worker]? = some p →
    p.pc = .exited true → ∃ item ∈ s.bus, item.sender = some entry.worker ∧ item.msg.isExit
  /-- The launcher sends to a worker that receives. -/
  receiving : ∀ g, s.SendsTo g → ∃ p, s.procs[g]? = some p ∧ p.pc.receives

/-- A report of an exit stays on the bus as long as the database has an entry. -/
theorem exit_stays (hwf : s.WellFormed) (h : Transition s e s') {d : Oid} {entry : WorkerEntry}
    (hhas : s'.ctx.Has d entry) {item : Item} {g : ℕ} (hmem : item ∈ s.bus)
    (hsender : item.sender = some g) (hexit : item.msg.isExit) (hproc : s.IsProc g d) :
    item ∈ s'.bus := by
  have hd : item.msg.dbOid = d := (hwf.reports item hmem g hsender).2.unique hproc
  have hshut : item.msg.ShutsDown := by
    cases hmsg : item.msg with
    | subscriberExit d reason => trivial
    | _ => rw [hmsg] at hexit; exact absurd hexit (by simp [LauncherMessage.isExit])
  exact shutdown_stays hwf h (hd ▸ hhas) hmem hshut

/-- A worker that is about to be shut down stays so as long as it has its entry. -/
theorem Departing.step (hwf : s.WellFormed) (hok : s.RequestSafe e) (h : Transition s e s')
    {d : Oid} {entry : WorkerEntry} (hhas : s'.ctx.Has d entry)
    (hproc : s.IsProc entry.worker d) (hdeparting : s.Departing entry.worker) :
    s'.Departing entry.worker := by
  obtain ⟨p, hp, hleft⟩ := hdeparting
  obtain ⟨p', hp', hchange⟩ := proc_after h hp
  refine ⟨p', hp', ?_⟩
  -- A leaving process reports its exit, and the report stays on the bus until it is handled.
  rcases hleft with hleaving | ⟨hexited, item, hmem, hsender, hexit⟩
  · cases hchange with
    | same terminating hterminating hother => exact Or.inl hleaving
    | received he hlauncher hlauncher' hpc =>
      exact absurd hleaving (by simp [hpc, Pc.isLeaving])
    | moved he hlock hstep hs' =>
      cases hstep with
      | @exit attached reason hpc =>
        refine Or.inr ⟨rfl, ⟨.subscriberExit p.db reason, some entry.worker⟩, ?_, rfl, rfl⟩
        rw [hs']
        exact List.mem_append_right _ List.mem_cons_self
      -- The bus takes every report of an exit.
      | exitRefused hpc => rw [he] at hok; exact absurd hok (by simp [RequestSafe])
      | fail hpc =>
        rcases hpc with hpc | ⟨config, hpc⟩ | ⟨config, hpc⟩ <;>
          exact absurd hleaving (by simp [hpc, Pc.isLeaving])
      | _ => exact absurd hleaving (by simp [*, Pc.isLeaving])
  · have hstays := exit_stays hwf h hhas hmem hsender hexit hproc
    cases hchange with
    | same terminating hterminating hother => exact Or.inr ⟨hexited, item, hstays, hsender, hexit⟩
    | received he hlauncher hlauncher' hpc =>
      exact absurd hexited (by simp [hpc, Pc.isExited])
    | moved he hlock hstep hs' =>
      cases hpc : p.pc with
      | exited attached => exact absurd hpc (hstep.not_exited attached)
      | _ => exact absurd hexited (by simp [hpc, Pc.isExited])

/-- Messages are accepted and handled in one order. -/
theorem fifo_step (hs : s.accepted = s.taken.map Prod.fst ++ s.bus.map Item.msg)
    (h : Transition s e s') : s'.accepted = s'.taken.map Prod.fst ++ s'.bus.map Item.msg := by
  rcases bus_of_step h with ⟨started, item, effect, -, -, hbus, haccepted, htaken, -⟩ |
      ⟨news, hbus, haccepted, htaken, -⟩
  · rw [haccepted, htaken, hs, hbus, List.map_append, List.map_cons, List.append_assoc]
    rfl
  · rw [haccepted, htaken, hs, hbus, List.map_append, List.append_assoc]

/-- The messages are handled for processes that there are, after any step. -/
theorem known_step (hwf : s.WellFormed) (hs : s.Kept) (h : Transition s e s')
    {msg : LauncherMessage} {g : ℕ} (hmem : (msg, some g) ∈ s'.taken) :
    ∃ p, s'.procs[g]? = some p := by
  have hafter : (∃ p, s.procs[g]? = some p) → ∃ p, s'.procs[g]? = some p := by
    rintro ⟨p, hproc⟩
    obtain ⟨p', hproc', -⟩ := proc_after h hproc
    exact ⟨p', hproc'⟩
  rcases bus_of_step h with ⟨started, item, effect, -, -, -, -, htaken, -⟩ | ⟨news, -, -, htaken, -⟩
  · rw [htaken] at hmem
    rcases List.mem_append.mp hmem with hmem | hmem
    · exact hafter (hs.known msg g hmem)
    · obtain ⟨-, hworker⟩ := Prod.mk.inj (List.mem_singleton.mp hmem)
      obtain ⟨entry, hentry, rfl⟩ := Option.map_eq_some_iff.mp hworker.symm
      obtain ⟨p, hproc, -⟩ := (hwf.entries _ entry (LauncherContext.has_of_entry? hentry)).2
      exact hafter ⟨p, hproc⟩
  · rw [htaken] at hmem
    exact hafter (hs.known msg g hmem)

/-- An entry whose worker has attached and exited is about to be shut down, after any step. -/
theorem detached_step (hwf : s.WellFormed) (hs : s.Kept) (hok : s.RequestSafe e)
    (h : Transition s e s') {d : Oid} {entry : WorkerEntry} {p' : Proc}
    (hhas : s'.ctx.Has d entry) (hproc' : s'.procs[entry.worker]? = some p')
    (hpc' : p'.pc = .exited true) :
    ∃ item ∈ s'.bus, item.sender = some entry.worker ∧ item.msg.isExit := by
  rcases entry_before hwf h hhas hproc' with ⟨hhas', p, hproc, hchange⟩ | ⟨db_name, hstart, -, rfl⟩
  · cases hchange with
    | same terminating hterminating hother =>
      obtain ⟨item, hmem, hsender, hexit⟩ := hs.detached d entry p hhas' hproc hpc'
      have hisProc := (hwf.entries d entry hhas').2
      exact ⟨item, exit_stays hwf h hhas hmem hsender hexit hisProc, hsender, hexit⟩
    | received he hlauncher hlauncher' hpc => exact absurd hpc' (by simp)
    | moved he hlock hstep hs' =>
      cases hstep with
      | @exit attached reason hpc =>
        refine ⟨⟨.subscriberExit p.db reason, some entry.worker⟩, ?_, rfl, rfl⟩
        rw [hs']
        exact List.mem_append_right _ List.mem_cons_self
      | exitRefused hpc => rw [he] at hok; exact absurd hok (by simp [RequestSafe])
      | _ => exact absurd hpc' (by simp)
  · exact absurd hpc' (by simp [fresh])

/-- A process that receives does so after its own move, unless its start-up fails. -/
theorem receives_step {p : Proc} {catalog : Catalog} {pe : ProcEvent} {r : ProcStep}
    (h : ProcTransition p catalog pe r) (hreceives : p.pc.receives)
    (hfail : ∀ reason, pe ≠ .fail reason) : r.pc.receives := by
  cases h with
  | fail hpc => exact absurd rfl (hfail _)
  | exit hpc => rwa [hpc] at hreceives
  | exitRefused hpc => rwa [hpc] at hreceives
  | fetch hpc => rfl
  | connect hpc => rfl
  | attach hpc => rfl
  | loop hpc henabled hstep => rfl
  | leave hpc hcause => rfl
  | reportExist hpc => rfl
  | abandon hpc => rw [hpc] at hreceives; exact absurd hreceives (by simp [Pc.receives])
  | check hpc => rw [hpc] at hreceives; exact absurd hreceives (by simp [Pc.receives])
  | reportOther hpc hstatus => rw [hpc] at hreceives; exact absurd hreceives (by simp [Pc.receives])
  | reportRefused hpc => rw [hpc] at hreceives; exact absurd hreceives (by simp [Pc.receives])

/-- A process that receives does so after any step that is not its failure to start up. -/
theorem receives_after (h : Transition s e s') {g : ℕ} {p : Proc} (hproc : s.procs[g]? = some p)
    (hreceives : p.pc.receives) (hfail : ∀ reason, e ≠ .proc g (.fail reason)) :
    ∃ p', s'.procs[g]? = some p' ∧ p'.pc.receives := by
  obtain ⟨p', hproc', hchange⟩ := proc_after h hproc
  refine ⟨p', hproc', ?_⟩
  cases hchange with
  | same terminating hterminating hother => exact hreceives
  | received he hlauncher hlauncher' hpc => rfl
  | moved he hlock hstep hs' =>
    refine receives_step hstep hreceives ?_
    rintro reason rfl
    exact hfail reason he

/-- The launcher sends to a worker that receives, after any step. -/
theorem receiving_step (hwf : s.WellFormed) (hs : s.Kept) (hok : s.RequestSafe e)
    (h : Transition s e s') {g : ℕ} (hsends : s'.SendsTo g) :
    ∃ p, s'.procs[g]? = some p ∧ p.pc.receives := by
  rcases sendsTo_of_step h hsends with ⟨hbefore, -, -⟩ | ⟨started, entry, rfl, rfl, hnext, d, hhas⟩
  · obtain ⟨p, hproc, hreceives⟩ := hs.receiving g hbefore
    refine receives_after h hproc hreceives ?_
    rintro reason rfl
    exact hok hbefore
  · obtain ⟨p, hproc, -⟩ := (hwf.entries d entry hhas).2
    have hreceives := hok.2 p (hnext.trans hproc)
    exact receives_after h hproc hreceives fun reason he => absurd he (by simp)

/-- Handling a message puts in flight exactly the request that it counts for the worker, unless the
worker is pending. -/
theorem inFlight_of_handling {started : Option String} {msg : LauncherMessage}
    {ctx : LauncherContext} {effect : Option Effect} {g : ℕ} (hlauncher : s.launcher = .draining)
    (h : Handling s.ctx started msg ctx effect)
    (hdropped : msg.request?.isSome → ∀ entry,
      s.ctx.pending_workers.lookup msg.dbOid = some entry → entry.worker ≠ g) :
    (s.perform effect).inFlight g =
      requestsFor [(msg, (s.ctx.entry? msg.dbOid).map WorkerEntry.worker)] g := by
  have hnothing : ∀ effect, (∀ entry m, effect ≠ some (.send entry m)) →
      (s.perform effect).inFlight g = [] := by
    intro effect hne
    refine inFlight_eq_nil fun hsends => ?_
    obtain ⟨m, hsending⟩ := sendsTo_iff.mp hsends
    cases effect with
    | none => exact absurd (hlauncher.symm.trans hsending) (by simp)
    | some effect =>
      cases effect with
      | send entry m => exact hne entry m rfl
      | _ => exact absurd (hlauncher.symm.trans hsending) (by simp)
  cases hrequest : msg.request? with
  | none =>
    have hright : ∀ worker, requestsFor [(msg, worker)] g = [] := by
      intro worker
      simp [requestsFor, hrequest]
    rw [hright]
    cases h with
    | @forward _ m entry hmsg hworkers =>
      show (if entry.worker = g ∧ m.isRequest = true then [m] else []) = []
      rw [isRequest_of_forward? hmsg hrequest]
      simp
    | _ => exact hnothing _ (by simp)
  | some m =>
    obtain ⟨hforward, hm⟩ := forward?_of_request? hrequest
    cases hworkers : s.ctx.workers.lookup msg.dbOid with
    | some entry =>
      obtain ⟨-, rfl⟩ := h.of_registered hforward hworkers
      have hentry : s.ctx.entry? msg.dbOid = some entry := by
        unfold LauncherContext.entry?
        rw [hworkers]
      show (if entry.worker = g ∧ m.isRequest = true then [m] else []) = _
      rw [hentry, hm]
      by_cases hg : entry.worker = g <;> simp [requestsFor, hrequest, hg]
    | none =>
      have hentry : s.ctx.entry? msg.dbOid = s.ctx.pending_workers.lookup msg.dbOid := by
        unfold LauncherContext.entry?
        rw [hworkers]
      have hleft : (s.perform effect).inFlight g = [] := by
        refine hnothing effect fun entry m' heffect => ?_
        cases h with
        | forward hmsg hentry' => exact absurd (hworkers.symm.trans hentry') (by simp)
        | _ => exact absurd heffect (by simp)
      rw [hleft, hentry]
      cases hpending : s.ctx.pending_workers.lookup msg.dbOid with
      | none => simp [requestsFor]
      | some entry =>
        have hne := hdropped (by simp [hrequest]) entry hpending
        simp [requestsFor, hne]

/-- For a worker that a step starts, nothing is handled, delivered, or in flight. -/
theorem delivered_new (hwf : s.WellFormed) (hs : s.Kept) (h : Transition s e s') {d : Oid}
    {db_name : String} {g : ℕ} (hstart : Starts s e s' d db_name) (hg : g = s.procs.length) :
    (fresh d).delivered.filter SubscriberMessage.isRequest ++ s'.inFlight g =
      requestsFor s'.taken g := by
  -- The number of the new process has not been used before.
  have hno : ∀ p, s.procs[g]? ≠ some p := by
    intro p hproc
    have hlt := (List.getElem?_eq_some_iff.mp hproc).1
    omega
  have hflight : s'.inFlight g = [] := by
    refine inFlight_eq_nil fun hsends => ?_
    obtain ⟨m, hsending⟩ := sendsTo_iff.mp hsends
    rcases hstart.cause with ⟨-, -, oids, -, hlauncher'⟩ | ⟨-, -, hlauncher', -⟩ <;>
      exact absurd (hlauncher'.symm.trans hsending) (by simp)
  have hold : ∀ msg, (msg, some g) ∉ s.taken := by
    intro msg hmem
    obtain ⟨p, hproc⟩ := hs.known msg g hmem
    exact hno p hproc
  have hnone : ∀ msg, (msg, some g) ∉ s'.taken := by
    intro msg hmem
    rcases bus_of_step h with ⟨-, item, -, -, -, -, -, htaken, -⟩ | ⟨-, -, -, htaken, -⟩
    · rw [htaken] at hmem
      rcases List.mem_append.mp hmem with hmem | hmem
      · exact hold msg hmem
      · obtain ⟨-, hworker⟩ := Prod.mk.inj (List.mem_singleton.mp hmem)
        obtain ⟨entry', hentry', rfl⟩ := Option.map_eq_some_iff.mp hworker.symm
        obtain ⟨p, hproc, -⟩ := (hwf.entries _ entry' (LauncherContext.has_of_entry? hentry')).2
        exact hno p hproc
    · rw [htaken] at hmem
      exact hold msg hmem
  rw [hflight]
  symm
  refine List.filterMap_eq_nil_iff.mpr fun ⟨msg, worker⟩ hmem => ?_
  refine if_neg ?_
  rintro rfl
  exact hnone msg hmem

/-- A receiver that has detached is about to be shut down. -/
theorem departing_of_detached (hs : s.Kept) {d : Oid} {entry : WorkerEntry} {p : Proc}
    (hhas : s.ctx.Has d entry) (hproc : s.procs[entry.worker]? = some p)
    (hdetached : (∃ reason, p.pc = .leaving true reason) ∨ p.pc = .exited true) :
    s.Departing entry.worker := by
  rcases hdetached with ⟨reason, hpc⟩ | hpc
  · exact ⟨p, hproc, Or.inl (by rw [hpc]; rfl)⟩
  · exact ⟨p, hproc, Or.inr ⟨by rw [hpc]; rfl, hs.detached d entry p hhas hproc hpc⟩⟩

/-- When the launcher handles a message, what it counts for a worker that stays is in flight. -/
theorem delivered_of_recv (hs : s.Kept) {started : Option String}
    (hok : s.RequestSafe (.recv started)) {item : Item} {rest : List Item}
    {ctx : LauncherContext} {effect : Option Effect} (hlauncher : s.launcher = .draining)
    (hbus : s.bus = item :: rest) (hhandling : Handling s.ctx started item.msg ctx effect)
    {d : Oid} {entry : WorkerEntry} {p : Proc} (hhas : s.ctx.Has d entry)
    (hproc : s.procs[entry.worker]? = some p) (hstays : ¬ s.Departing entry.worker) :
    p.delivered.filter SubscriberMessage.isRequest ++ (s.perform effect).inFlight entry.worker =
      requestsFor (s.taken ++
        [(item.msg, (s.ctx.entry? item.msg.dbOid).map WorkerEntry.worker)]) entry.worker := by
  have hidle : s.inFlight entry.worker = [] := by
    refine inFlight_eq_nil fun hsends => ?_
    obtain ⟨m, hsending⟩ := sendsTo_iff.mp hsends
    exact absurd (hlauncher.symm.trans hsending) (by simp)
  have hdropped : item.msg.request?.isSome → ∀ entry',
      s.ctx.pending_workers.lookup item.msg.dbOid = some entry' →
      entry'.worker ≠ entry.worker := by
    intro hrequest entry' hpending heq
    refine hstays (heq ▸ hok.1 entry' ?_)
    unfold nextDropped
    rw [hbus]
    exact (if_pos hrequest).trans hpending
  have hkept := hs.requests.2 d entry p hhas hproc hstays
  rw [hidle, List.append_nil] at hkept
  rw [inFlight_of_handling hlauncher hhandling hdropped, hkept]
  unfold requestsFor
  rw [List.filterMap_append]

/-- A step at which the launcher handles nothing loses no request of a worker that stays. -/
theorem delivered_of_other (hs : s.Kept) (h : Transition s e s')
    (hnot : ∀ started, e ≠ .recv started) {d : Oid} {entry : WorkerEntry} {p p' : Proc}
    (hhas : s.ctx.Has d entry) (hproc : s.procs[entry.worker]? = some p)
    (hchange : ProcChange s e s' entry.worker p p') (hstays : ¬ s.Departing entry.worker) :
    p'.delivered.filter SubscriberMessage.isRequest ++ s'.inFlight entry.worker =
      p.delivered.filter SubscriberMessage.isRequest ++ s.inFlight entry.worker := by
  cases hchange with
  | same terminating hterminating hother =>
    congr 1
    -- A send that ends unread ends at a receiver that has detached, which does not stay.
    by_cases hsends' : s'.SendsTo entry.worker
    · rcases sendsTo_of_step h hsends' with ⟨-, hsame, -⟩ | ⟨started, -, he, -⟩
      · exact inFlight_congr hsame
      · exact absurd he (hnot started)
    · rw [inFlight_eq_nil hsends']
      refine (inFlight_eq_nil fun hsends => ?_).symm
      obtain ⟨q, hq, hcause⟩ := send_ends h hsends hsends'
      obtain rfl := Option.some.inj (hproc.symm.trans hq)
      rcases hcause with ⟨rfl, -⟩ | hdetached
      · obtain ⟨m, hsending⟩ := sendsTo_iff.mp hsends
        exact hother rfl m hsending
      · exact hstays (departing_of_detached hs hhas hproc hdetached)
  | @received msg sub he hlauncher hlauncher' hpc =>
    have hafter : s'.inFlight entry.worker = [] := by
      unfold inFlight
      rw [hlauncher']
    have hflight : s.inFlight entry.worker = if msg.isRequest then [msg] else [] := by
      unfold inFlight
      rw [hlauncher]
      simp
    rw [hafter, hflight, List.append_nil, List.filter_append, List.filter_singleton,
      Bool.cond_eq_ite]
  | moved he hlock hstep hs' =>
    have hsame : s'.launcher = s.launcher := by rw [hs']; rfl
    rw [inFlight_congr hsame]

/-- The requests handled for a worker that stays are those delivered and in flight, after any
step. -/
theorem delivered_step (hwf : s.WellFormed) (hs : s.Kept) (hok : s.RequestSafe e)
    (h : Transition s e s') {d : Oid} {entry : WorkerEntry} {p' : Proc}
    (hhas' : s'.ctx.Has d entry) (hproc' : s'.procs[entry.worker]? = some p')
    (hstays' : ¬ s'.Departing entry.worker) :
    p'.delivered.filter SubscriberMessage.isRequest ++ s'.inFlight entry.worker =
      requestsFor s'.taken entry.worker := by
  rcases entry_before hwf h hhas' hproc' with ⟨hhas, p, hproc, hchange⟩ |
      ⟨db_name, hstart, hnew, rfl⟩
  -- A worker that stays after the step was not about to be shut down before it.
  · have hstays : ¬ s.Departing entry.worker := fun hdeparting =>
      hstays' (hdeparting.step hwf hok h hhas' (hwf.entries d entry hhas).2)
    rcases bus_of_step h with ⟨started, item, effect, rfl, hlauncher, hbus, -, htaken, hhandling,
        hlauncher'⟩ | ⟨news, -, -, htaken, hnot⟩
    · rw [htaken, inFlight_congr hlauncher']
      have hkept := delivered_of_recv hs hok hlauncher hbus hhandling hhas hproc hstays
      cases hchange with
      | same terminating hterminating hother => exact hkept
      | received he => exact absurd he (by simp)
      | moved he => exact absurd he (by simp)
    · rw [htaken, delivered_of_other hs h hnot hhas hproc hchange hstays]
      exact hs.requests.2 d entry p hhas hproc hstays
  · exact delivered_new hwf hs h hstart hnew

/-- A step that meets the condition keeps the invariant. -/
theorem kept_step (hwf : s.WellFormed) (hs : s.Kept) (hok : s.RequestSafe e)
    (h : Transition s e s') : s'.Kept where
  requests := ⟨fifo_step hs.requests.1 h,
    fun _ _ _ hhas hproc hstays => delivered_step hwf hs hok h hhas hproc hstays⟩
  known _ _ hmem := known_step hwf hs h hmem
  detached _ _ _ hhas hproc hpc := detached_step hwf hs hok h hhas hproc hpc
  receiving _ hsends := receiving_step hwf hs hok h hsends

/-- The invariant holds when the launcher starts. -/
theorem kept_init (oids : List Oid) (catalog : Oid → Catalog) : (init oids catalog).Kept where
  requests := ⟨rfl, fun d entry p hhas hproc => absurd hproc (by simp [init])⟩
  known msg g hmem := absurd hmem (by simp [init])
  detached d entry p hhas hproc := absurd hproc (by simp [init])
  receiving g hsends := hsends.elim

/-- In every run whose steps meet the condition, no accepted request is lost, and a send in progress
is to a worker that receives. The condition is enough and not exact: an exit report that the bus
refuses does no harm if no request for the database follows. -/
theorem requests_kept {oids : List Oid} (hoids : oids.Nodup) (catalog : Oid → Catalog)
    {es : List Event} (hrun : Run.run step (init oids catalog) es = some s)
    (hok : Run.RunAll step RequestSafe (init oids catalog) es) :
    s.RequestsKept ∧ ∀ g, s.SendsTo g → ∃ p, s.procs[g]? = some p ∧ p.pc.receives := by
  have hkeep : ∀ s e s', WellFormed s → Kept s → RequestSafe s e → Transition s e s' → Kept s' :=
    fun _ _ _ => kept_step
  obtain ⟨-, hs⟩ := invariant_of_run hkeep hoids (kept_init oids catalog) hok hrun
  exact ⟨hs.requests, hs.receiving⟩

/-- Two requests to a registered worker that is in its loop: both come through its queue, in order.
-/
theorem two_requests_kept :
    ∃ s, Run.run step (init [5] fun _ => configured)
        [.boot (some "db"), .boot none, .proc 0 .check, .proc 0 (.report true), .proc 0 .fetch,
          .proc 0 .connect, .proc 0 (.attach ⟨.master, true, ⟨none, none, id⟩, true⟩), .wake,
          .recv none, .unlock, .request true 5 "a" "f", .request false 5 "a" "f", .wake, .recv none,
          .sent, .recv none, .sent] = some s ∧
      s.RequestsKept ∧
      s.procs.map Proc.delivered = [[.subscribe "a" "f", .unsubscribe "a" "f"]] := by
  obtain ⟨s, hrun, hdelivered⟩ : ∃ s, Run.run step (init [5] fun _ => configured)
      [.boot (some "db"), .boot none, .proc 0 .check, .proc 0 (.report true), .proc 0 .fetch,
        .proc 0 .connect, .proc 0 (.attach ⟨.master, true, ⟨none, none, id⟩, true⟩), .wake,
        .recv none, .unlock, .request true 5 "a" "f", .request false 5 "a" "f", .wake, .recv none,
        .sent, .recv none, .sent] = some s ∧
      s.procs.map Proc.delivered = [[.subscribe "a" "f", .unsubscribe "a" "f"]] := ⟨_, rfl, rfl⟩
  have hkept := requests_kept (by decide : ([5] : List Oid).Nodup) (fun _ => configured) hrun
    (by decide)
  exact ⟨s, hrun, hkept.1, hdelivered⟩

/-- The launcher handles a request before the report of the worker, which is pending. The worker is
registered later and is in its loop at the end, and the request has not come through its queue. -/
theorem request_to_pending_lost :
    ∃ s, Run.run step (init [5] fun _ => configured)
        [.boot (some "db"), .boot none, .request true 5 "a" "f", .wake, .recv none, .unlock,
          .proc 0 .check, .proc 0 (.report true), .wake, .recv none, .unlock, .proc 0 .fetch,
          .proc 0 .connect, .proc 0 (.attach ⟨.master, true, ⟨none, none, id⟩, true⟩)] = some s ∧
      s.accepted = [.subscribe 5 "a" "f", .dbExtensionStatus 5 .exist] ∧
      s.taken = [(.subscribe 5 "a" "f", some 0), (.dbExtensionStatus 5 .exist, some 0)] ∧
      s.ctx.workers.lookup 5 = some ⟨"db", 5, 0⟩ ∧
      s.procs.map Proc.delivered = [[]] ∧
      ¬ s.RequestsKept := by
  refine ⟨_, rfl, rfl, rfl, rfl, rfl, ?_⟩
  rintro ⟨-, hkept⟩
  exact absurd (hkept 5 ⟨"db", 5, 0⟩ _ (Or.inr rfl) rfl (by decide)) (by decide)

end System

end PgNats
