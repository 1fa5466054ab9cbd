import PgNats.System.Requests

/-!
# What reaches a subscriber

The path of a message through the whole system, over the ideal bus of `System`, which is first in,
first out and loses nothing. The launcher takes each message once, for at most one worker, which is
of the message's database, and sends it to that worker at most once. The worker reads its queue in
order, moves the requests to its channel, and handles or drops them there.

So what a subscriber got and what it handled are, in order, parts of what the bus accepted for its
database (`delivered_in_order`). Behind the bus a request may be lost (`requests_kept` says when it
is not), but it is never duplicated, never overtaken by a later one, and never handled in another
database. For the ring queue itself, `Exchange.at_most_once` says as much of the way to the
launcher, and `Exchange.exactly_once_iff` says when it is the ideal bus.
-/

namespace PgNats

/-- The request that a message from the launcher is. -/
def SubscriberMessage.asRequest? : SubscriberMessage → Option Request
  | .newConfig _ => none
  | .subscribe subject fn_name => some ⟨true, (subject, fn_name)⟩
  | .unsubscribe subject fn_name => some ⟨false, (subject, fn_name)⟩

namespace Subscriber

/-- The requests that a process has got: handled, in its channel, and in its queue, in order. -/
def requests (s : Subscriber) : List Request :=
  s.handled.reverse ++ s.ctx.sender.filterMap InternalWorkerMessage.request? ++
    s.recv.filterMap SubscriberMessage.asRequest?

/-- Restored rows are not requests. -/
theorem filterMap_restores {db : Database} {before after : List InternalWorkerMessage}
    (h : Restores db before after) : after.filterMap InternalWorkerMessage.request? =
      before.filterMap InternalWorkerMessage.request? := by
  obtain ⟨rows, -, rfl⟩ := h
  have hnone : (rows.map fun row => InternalWorkerMessage.subscribe false row.1 row.2).filterMap
      InternalWorkerMessage.request? = [] := by
    rw [List.filterMap_map, List.filterMap_eq_nil_iff]
    exact fun row _ => rfl
  rw [List.filterMap_append, hnone, List.append_nil]

/-- A new process has no requests. -/
theorem requests_start (db : Database) (config : Config) (env : Env) :
    (start db [] config env).requests = [] := by
  have hsender := filterMap_restores (restores_start db [] config env)
  obtain ⟨published, hstart⟩ := start_eq db [] config env
  unfold requests
  rw [hsender, hstart]
  rfl

/-- A message of the queue that is handled is in the channel now, if it is a request. -/
theorem filterMap_handleMessage (ctx : SubscriberContext) (connected : Bool)
    (msg : SubscriberMessage) :
    (handleMessageFromSharedQueue ctx connected msg).sender.filterMap
        InternalWorkerMessage.request? =
      ctx.sender.filterMap InternalWorkerMessage.request? ++ msg.asRequest?.toList := by
  cases msg with
  | newConfig config =>
    show (ctx.applyConfig config connected).1.sender.filterMap _ = _
    rw [(ctx.applyConfig_frame config connected).1]
    exact (List.append_nil _).symm
  | subscribe subject fn_name => exact List.filterMap_append
  | unsubscribe subject fn_name => exact List.filterMap_append

/-- A step of a process by itself gives it no request, and keeps the order of those that it has. A
replica drops what is in its channel. -/
theorem requests_step {s s' : Subscriber} {e : Event} (h : Transition s e s')
    (hdeliver : ∀ msg, e ≠ .deliver msg) (hrestart : ∀ config env, e ≠ .restart config env) :
    s'.requests.Sublist s.requests := by
  unfold requests
  cases h with
  | deliver msg hlive => exact absurd rfl (hdeliver msg)
  | @report handler task result hlive htask =>
    have hreported : (reported task result).request? = none := by cases result <;> rfl
    dsimp only
    rw [List.filterMap_append, List.filterMap_cons_none hreported, List.filterMap_nil,
      List.append_nil]
  | @wake env hphase =>
    dsimp only
    rw [filterMap_restores (s.ctx.restores_checkMigration s.db env)]
  | @sharedRecv connected msg recv hphase hrecv =>
    dsimp only
    rw [filterMap_handleMessage, hrecv, filterMap_cons_toList]
    simp only [List.append_assoc, List.Sublist.refl]
  | sharedEmpty hphase => exact List.Sublist.refl _
  | @internalRecv outcome msg rest hphase hsender =>
    rw [hsender, filterMap_cons_toList]
    cases hrole : s.ctx.status with
    | replica =>
      rw [internal_of_replica hrole]
      simp only [List.append_assoc]
      exact (List.sublist_append_right _ _).append_left _
    | master =>
      rw [internal_of_master hrole]
      dsimp only
      rw [handleInternalMessage_sender, List.reverse_append]
      have hone : msg.request?.toList.reverse = msg.request?.toList := by
        cases msg.request? <;> rfl
      simp only [hone, List.append_assoc, List.Sublist.refl]
  | internalEmpty hphase hsender => exact List.Sublist.refl _
  | exit result hcause => exact List.Sublist.refl _
  | restart config env => exact absurd rfl (hrestart config env)

end Subscriber

namespace System

/-- What the launcher forwards of the messages that it took for this worker. -/
def forwardsFor (taken : List (LauncherMessage × Option ℕ)) (g : ℕ) : List SubscriberMessage :=
  taken.filterMap fun (msg, worker) => if worker = some g then msg.forward? else none

/-- The message that the launcher is sending to this worker. -/
def sendingTo (s : System) (g : ℕ) : List SubscriberMessage :=
  match s.launcher with
  | .sending worker msg => if worker = g then [msg] else []
  | _ => []

/-- What holds of the messages on their way, in every reachable state. -/
structure InOrder (s : System) : Prop where
  /-- The bus is first in, first out. -/
  fifo : s.accepted = s.taken.map Prod.fst ++ s.bus.map Item.msg
  /-- A message is taken for a worker of its own database. -/
  own : ∀ msg g, (msg, some g) ∈ s.taken → s.IsProc g msg.dbOid
  /-- What came to a worker, or is being sent to it, was taken for it. -/
  forwarded : ∀ g p, s.procs[g]? = some p →
    (p.delivered ++ s.sendingTo g).Sublist (forwardsFor s.taken g)
  /-- The requests in a worker's loop came through its queue. -/
  loop : ∀ (g : ℕ) (p : Proc) (sub : Subscriber), s.procs[g]? = some p → p.pc = .looping sub →
    sub.requests.Sublist (p.delivered.filterMap SubscriberMessage.asRequest?)

variable {s s' : System} {e : Event}

/-- A launcher that sends nothing sends nothing to this worker. -/
theorem sendingTo_eq_nil {g : ℕ} (h : ∀ msg, s.launcher ≠ .sending g msg) : s.sendingTo g = [] := by
  unfold sendingTo
  split
  · next worker msg hlauncher =>
    refine if_neg fun heq => h msg ?_
    rw [hlauncher, heq]
  · rfl

/-- What a launcher sends to this worker. -/
theorem sendingTo_eq {g : ℕ} {msg : SubscriberMessage} (h : s.launcher = .sending g msg) :
    s.sendingTo g = [msg] := by
  unfold sendingTo
  rw [h]
  exact if_pos rfl

/-- A message is taken for a worker of its own database, after any step. -/
theorem own_step (hwf : s.WellFormed) (hs : s.InOrder) (h : Transition s e s')
    {msg : LauncherMessage} {g : ℕ} (hmem : (msg, some g) ∈ s'.taken) : s'.IsProc g msg.dbOid := by
  rcases bus_of_step h with ⟨started, item, effect, -, -, -, -, htaken, -⟩ | ⟨news, -, -, htaken, -⟩
  · rw [htaken] at hmem
    rcases List.mem_append.mp hmem with hmem | hmem
    · exact (hs.own msg g hmem).step h
    · obtain ⟨rfl, hworker⟩ := Prod.mk.inj (List.mem_singleton.mp hmem)
      obtain ⟨entry, hentry, rfl⟩ := Option.map_eq_some_iff.mp hworker.symm
      exact (hwf.entries _ entry (LauncherContext.has_of_entry? hentry)).2.step h
  · rw [htaken] at hmem
    exact (hs.own msg g hmem).step h

/-- More is taken for a worker, or the same. -/
theorem forwardsFor_of_step (h : Transition s e s') (g : ℕ) :
    (forwardsFor s.taken g).Sublist (forwardsFor s'.taken g) := by
  rcases bus_of_step h with ⟨started, item, effect, -, -, -, -, htaken, -⟩ | ⟨news, -, -, htaken, -⟩
  · rw [htaken]
    unfold forwardsFor
    rw [List.filterMap_append]
    exact List.sublist_append_left _ _
  · rw [htaken]

/-- What came to a worker that a step does not deliver to, or is being sent to it after the step,
was taken for it. -/
theorem forwarded_same (h : Transition s e s') {g : ℕ} {delivered : List SubscriberMessage}
    (hs : (delivered ++ s.sendingTo g).Sublist (forwardsFor s.taken g)) :
    (delivered ++ s'.sendingTo g).Sublist (forwardsFor s'.taken g) := by
  by_cases hsending : ∃ msg, s'.launcher = .sending g msg
  · obtain ⟨msg, hlauncher'⟩ := hsending
    rw [sendingTo_eq hlauncher']
    rcases sending_of_step h hlauncher' with ⟨hlauncher, -, hnot⟩ |
        ⟨started, item, entry, rfl, hbus, -, hforward, hworkers, hworker⟩
    · rw [sendingTo_eq hlauncher] at hs
      exact hs.trans (forwardsFor_of_step h g)
    -- The launcher takes the message for the worker that it sends it to.
    · rcases bus_of_step h with ⟨started', item', effect, -, hdraining, hbus', -, htaken, -⟩ |
          ⟨news, -, -, -, hnot⟩
      · obtain rfl : item = item' := (List.cons.inj (hbus.symm.trans hbus')).1
        have hentry : s.ctx.entry? item.msg.dbOid = some entry := by
          unfold LauncherContext.entry?
          rw [hworkers]
        have hnil : s.sendingTo g = [] :=
          sendingTo_eq_nil fun msg' hlauncher => by rw [hdraining] at hlauncher; cases hlauncher
        rw [hnil, List.append_nil] at hs
        rw [htaken, hentry]
        unfold forwardsFor at hs ⊢
        rw [List.filterMap_append, filterMap_cons_toList, List.filterMap_nil, Option.map_some,
          hworker]
        dsimp only
        rw [if_pos rfl, hforward]
        exact hs.append (List.Sublist.refl _)
      · exact absurd rfl (hnot started)
  · have hnil : s'.sendingTo g = [] := sendingTo_eq_nil fun msg hmsg => hsending ⟨msg, hmsg⟩
    rw [hnil, List.append_nil]
    exact ((List.sublist_append_left _ _).trans hs).trans (forwardsFor_of_step h g)

/-- Every step keeps the messages in order. -/
theorem inOrder_step (hwf : s.WellFormed) (hs : s.InOrder) (h : Transition s e s') :
    s'.InOrder where
  fifo := fifo_step hs.fifo h
  own msg g hmem := own_step hwf hs h hmem
  forwarded g p' hproc' := by
    rcases proc_before h hproc' with ⟨p, hproc, hchange⟩ | ⟨d, db_name, hstart, rfl, rfl⟩
    · have hbefore := hs.forwarded g p hproc
      cases hchange with
      | same terminating hterminating hother => exact forwarded_same h hbefore
      | @received msg sub he hlauncher hlauncher' hpc =>
        rw [sendingTo_eq hlauncher] at hbefore
        have hnil : s'.sendingTo g = [] :=
          sendingTo_eq_nil fun msg' hmsg => by rw [hlauncher'] at hmsg; cases hmsg
        rw [hnil, List.append_nil]
        exact hbefore.trans (forwardsFor_of_step h g)
      | moved he hlock hstep hs' => exact forwarded_same h hbefore
    -- A launcher that starts a worker sends nothing.
    · have hnil : s.sendingTo s.procs.length = [] := by
        refine sendingTo_eq_nil fun msg hmsg => ?_
        rcases hstart.cause with ⟨-, -, oids, hlauncher, -⟩ | ⟨-, hlauncher, -⟩
        · rw [hlauncher] at hmsg
          cases hmsg
        · rw [hlauncher] at hmsg
          cases hmsg
      refine forwarded_same h ?_
      rw [hnil]
      exact List.nil_sublist _
  loop g p' sub' hproc' hpc' := by
    rcases proc_before h hproc' with ⟨p, hproc, hchange⟩ | ⟨d, db_name, hstart, rfl, rfl⟩
    · cases hchange with
      | same terminating hterminating hother => exact hs.loop g p sub' hproc hpc'
      | @received msg sub he hlauncher hlauncher' hpc =>
        obtain rfl := Pc.looping.inj hpc'
        have hbefore := hs.loop g p sub hproc hpc
        unfold Subscriber.requests at hbefore ⊢
        dsimp only
        rw [List.filterMap_append, List.filterMap_append, ← List.append_assoc]
        exact hbefore.append (List.Sublist.refl _)
      | moved he hlock hstep hs' =>
        cases hstep with
        | attach hpc =>
          obtain rfl := Pc.looping.inj hpc'
          rw [Subscriber.requests_start]
          exact List.nil_sublist _
        | @loop sub sub'' e hpc henabled hstep =>
          obtain rfl := Pc.looping.inj hpc'
          have hown := Subscriber.requests_step (Subscriber.transition_of_step hstep)
            (fun msg he => by rw [he] at henabled; cases henabled)
            (fun config env he => by rw [he] at henabled; cases henabled)
          exact hown.trans (hs.loop g p sub hproc hpc)
        | _ => cases hpc'
    · cases hpc'

/-- Nothing is on its way when the launcher starts. -/
theorem inOrder_init (oids : List Oid) (catalog : Oid → Catalog) :
    (init oids catalog).InOrder where
  fifo := rfl
  own msg g hmem := absurd hmem List.not_mem_nil
  forwarded g p hproc := by cases hproc
  loop g p sub hproc := by cases hproc

/-- What the bus accepted for a database, as its workers get it. -/
def acceptedFor (s : System) (d : Oid) : List SubscriberMessage :=
  s.accepted.filterMap fun msg => if msg.dbOid = d then msg.forward? else none

/-- What is taken for a worker is taken for its database. -/
theorem forwardsFor_sublist {taken : List (LauncherMessage × Option ℕ)} {g : ℕ} {d : Oid}
    (h : ∀ msg, (msg, some g) ∈ taken → msg.dbOid = d) : (forwardsFor taken g).Sublist
      ((taken.map Prod.fst).filterMap fun msg => if msg.dbOid = d then msg.forward? else none) := by
  unfold forwardsFor
  induction taken with
  | nil => exact List.Sublist.refl _
  | cons entry taken ih =>
    obtain ⟨msg, worker⟩ := entry
    have ih := ih fun msg' hmem => h msg' (List.mem_cons_of_mem _ hmem)
    rw [List.map_cons, filterMap_cons_toList, filterMap_cons_toList]
    dsimp only
    by_cases hworker : worker = some g
    · have hd : msg.dbOid = d := h msg (hworker ▸ List.mem_cons_self)
      rw [if_pos hworker, if_pos hd]
      exact ih.append_left _
    · rw [if_neg hworker]
      exact ih.trans (List.sublist_append_right _ _)

/-- Over the ideal bus, which loses nothing: in every reachable state, whatever the interleaving and
the failures, the launcher has taken the accepted messages in order, each for at most one worker.
What came to a worker is a part, in order, of what was taken for it, and so of what the bus accepted
for its database, and the requests that it handled are a part, in order, of the accepted ones. -/
theorem delivered_in_order {oids : List Oid} (hoids : oids.Nodup) {catalog : Oid → Catalog}
    {es : List Event} (hrun : Run.run step (init oids catalog) es = some s) :
    s.taken.map Prod.fst <+: s.accepted ∧ ∀ (g : ℕ) (p : Proc), s.procs[g]? = some p →
      p.delivered.Sublist (forwardsFor s.taken g) ∧ p.delivered.Sublist (s.acceptedFor p.db) ∧
        ∀ sub : Subscriber, p.pc = .looping sub → sub.handled.reverse.Sublist
          ((s.acceptedFor p.db).filterMap SubscriberMessage.asRequest?) := by
  have hkeep : ∀ s e s', WellFormed s → InOrder s → True → Transition s e s' → InOrder s' :=
    fun s e s' hwf hs _ h => inOrder_step hwf hs h
  obtain ⟨-, h⟩ := invariant_of_run hkeep hoids
    (inOrder_init oids catalog) (Run.RunAll.of_forall_mem fun _ _ => trivial) hrun
  refine ⟨⟨_, h.fifo.symm⟩, fun g p hproc => ?_⟩
  have htaken : p.delivered.Sublist (forwardsFor s.taken g) :=
    (List.sublist_append_left _ _).trans (h.forwarded g p hproc)
  have hown : ∀ msg, (msg, some g) ∈ s.taken → msg.dbOid = p.db :=
    fun msg hmem => (h.own msg g hmem).unique ⟨p, hproc, rfl⟩
  have haccepted : p.delivered.Sublist (s.acceptedFor p.db) := by
    refine htaken.trans ((forwardsFor_sublist hown).trans ?_)
    unfold acceptedFor
    rw [h.fifo, List.filterMap_append]
    exact List.sublist_append_left _ _
  refine ⟨htaken, haccepted, fun sub hpc => ?_⟩
  have hloop := h.loop g p sub hproc hpc
  unfold Subscriber.requests at hloop
  rw [List.append_assoc] at hloop
  exact ((List.sublist_append_left _ _).trans hloop).trans (haccepted.filterMap _)

/-- Of two requests, the first is handled while the worker is pending and is lost, and the worker
handles the second. -/
def secondOnly : List Event := [
  .boot (some "db"), .boot none, .request true 5 "a" "f", .wake, .recv none, .unlock,
  .proc 0 .check, .proc 0 (.report true), .wake, .recv none, .unlock, .proc 0 .fetch,
  .proc 0 .connect, .proc 0 (.attach ⟨.master, true, ⟨none, none, id⟩, true⟩),
  .request true 5 "b" "g", .wake, .recv none, .sent, .unlock,
  .proc 0 (.loop (.wake .exist ⟨.master, true, ⟨none, none, id⟩, true⟩)),
  .proc 0 (.loop (.sharedRecv true)), .proc 0 (.loop .sharedEmpty),
  .proc 0 (.loop (.internalRecv fun _ => .ok ()))]

/-- The worker handles the second of two requests. -/
theorem delivered_in_order_second :
    ∃ s p sub, Run.run step (init [5] fun _ => configured) secondOnly = some s ∧
      s.procs[0]? = some p ∧ p.pc = .looping sub ∧ sub.handled = [⟨true, ("b", "g")⟩] ∧
      (s.acceptedFor 5).filterMap SubscriberMessage.asRequest? =
        [⟨true, ("a", "f")⟩, ⟨true, ("b", "g")⟩] ∧
      sub.handled.reverse.Sublist ((s.acceptedFor 5).filterMap SubscriberMessage.asRequest?) := by
  obtain ⟨s, p, sub, hrun, hproc, hdb, hpc, hhandled, haccepted⟩ : ∃ s p sub,
      Run.run step (init [5] fun _ => configured) secondOnly = some s ∧
      s.procs[0]? = some p ∧ p.db = 5 ∧ p.pc = .looping sub ∧
      sub.handled = [⟨true, ("b", "g")⟩] ∧
      (s.acceptedFor 5).filterMap SubscriberMessage.asRequest? =
        [⟨true, ("a", "f")⟩, ⟨true, ("b", "g")⟩] :=
    ⟨_, _, _, rfl, rfl, rfl, rfl, rfl, rfl⟩
  have hparts := (delivered_in_order (by decide : ([5] : List Oid).Nodup) hrun).2 0 p hproc
  exact ⟨s, p, sub, hrun, hproc, hpc, hhandled, haccepted, hdb ▸ hparts.2.2 sub hpc⟩

end System

end PgNats
