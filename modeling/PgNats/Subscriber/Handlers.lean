import PgNats.Subscriber.Loop

/-!
# The handler tasks of the subscribed subjects

A subject in the map of `NatsConnectionState` has a handler task, which `subscribe` spawns for a new
subject and `reconnect_nats` spawns again on the new client, after `unsubscribe_all` has aborted the
old ones. `Handlers` is the invariant: the handler of each subject is a task for this subject on the
client in use, and no other task is left unaborted. `one_handler_per_subject` is the result for all
sequences of operations.

A subject is meant to leave the map with its last function, and `unsubscribe` sees to it.
`run_callbacks` does not, so a subject whose functions are all gone keeps its task. `listened_iff`
says when this happens.
-/

namespace PgNats

open Run (RunAll)

namespace NatsConnectionState

/-- The handlers fit the map. -/
structure Handlers (nats : NatsConnectionState) (rt : Runtime) : Prop where
  /-- Each subject's handler is a task for it on the client in use. -/
  live : ∀ s sub, nats.subscriptions.lookup s = some sub →
    rt.tasks[sub.handler]? = some { client := nats.client, subject := s, aborted := false }
  /-- A task that is not aborted is a handler. -/
  owned : nats.Owned rt

section Handlers

variable {nats : NatsConnectionState} {rt : Runtime} {subject fn_name : String}

/-- An abort leaves the other tasks as they are. -/
theorem getElem?_abort_of_ne {handler i : ℕ} (hne : i ≠ handler) :
    (rt.abort handler).tasks[i]? = rt.tasks[i]? :=
  List.getElem?_modify_ne _ _ hne.symm

/-- A spawn leaves the tasks that are there. -/
theorem getElem?_spawn_of_some {client : Client} {i : ℕ} {task : Task}
    (h : rt.tasks[i]? = some task) : (rt.spawn client subject).1.tasks[i]? = some task := by
  unfold Runtime.spawn
  rw [List.getElem?_append_left (List.getElem?_eq_some_iff.mp h).1]
  exact h

/-- The handle of a spawn is that of the new task. -/
theorem getElem?_spawn_self {client : Client} :
    (rt.spawn client subject).1.tasks[(rt.spawn client subject).2]? =
      some { client, subject, aborted := false } := by
  unfold Runtime.spawn
  exact List.getElem?_concat_length

/-- Two subjects have different handlers. -/
theorem Handlers.handler_ne (h : Handlers nats rt) {s s' : String} {sub sub' : NatsSubscription}
    (hsub : nats.subscriptions.lookup s = some sub)
    (hsub' : nats.subscriptions.lookup s' = some sub') (hne : s ≠ s') :
    sub.handler ≠ sub'.handler := by
  intro heq
  have htask := (h.live s sub hsub).symm.trans (heq ▸ h.live s' sub' hsub')
  exact hne (Task.mk.inj (Option.some.inj htask)).2.1

/-- A task that is not aborted is the handler of its own subject, on the client in use. -/
theorem Handlers.of_live (h : Handlers nats rt) {i : ℕ} {task : Task}
    (htask : rt.tasks[i]? = some task) (hlive : task.aborted = false) :
    task.client = nats.client ∧
      ∃ sub, nats.subscriptions.lookup task.subject = some sub ∧ sub.handler = i := by
  obtain ⟨s, sub, hsub, rfl⟩ := h.owned i task htask hlive
  obtain rfl := Option.some.inj ((h.live s sub hsub).symm.trans htask)
  exact ⟨rfl, sub, hsub, rfl⟩

/-- `subscribe` spawns the handler of a new subject, and keeps that of a subject that is there. -/
theorem handlers_subscribe (h : Handlers nats rt) :
    Handlers (nats.subscribe subject fn_name rt).1 (nats.subscribe subject fn_name rt).2 := by
  refine ⟨?_, owned_subscribe h.owned⟩
  unfold subscribe
  cases hlook : nats.subscriptions.lookup subject with
  | none =>
    -- The new task comes last, so the handles in the map still name their tasks.
    intro s sub hsub
    dsimp only at hsub ⊢
    rcases HashMap.lookup_insert_eq_some hsub with ⟨rfl, rfl⟩ | hold
    · exact getElem?_spawn_self
    · exact getElem?_spawn_of_some (h.live s sub hold)
  | some old =>
    intro s sub hsub
    dsimp only at hsub ⊢
    rcases HashMap.lookup_insert_eq_some hsub with ⟨rfl, rfl⟩ | hold
    · exact h.live s old hlook
    · exact h.live s sub hold

/-- Erasing a subject and aborting its handler leaves the other handlers. -/
theorem handlers_erase {old : NatsSubscription} (h : Handlers nats rt)
    (hlook : nats.subscriptions.lookup subject = some old) :
    Handlers { nats with subscriptions := nats.subscriptions.erase subject }
      (rt.abort old.handler) := by
  refine ⟨fun s sub hsub => ?_, owned_erase h.owned hlook⟩
  obtain ⟨hne, hold⟩ := HashMap.lookup_erase_eq_some hsub
  -- No other subject has the aborted task as its handler.
  rw [getElem?_abort_of_ne (h.handler_ne hold hlook hne)]
  exact h.live s sub hold

/-- Changing the functions of a subject leaves the handlers. -/
theorem handlers_insert {old : NatsSubscription} {funcs : HashSet String} (h : Handlers nats rt)
    (hlook : nats.subscriptions.lookup subject = some old) :
    Handlers { nats with subscriptions := nats.subscriptions.insert subject { old with funcs } }
      rt := by
  refine ⟨fun s sub hsub => ?_, owned_insert h.owned hlook⟩
  rcases HashMap.lookup_insert_eq_some hsub with ⟨rfl, rfl⟩ | hold
  · exact h.live s old hlook
  · exact h.live s sub hold

/-- `unsubscribe` keeps the handlers. -/
theorem handlers_unsubscribe (h : Handlers nats rt) :
    Handlers (nats.unsubscribe subject fn_name rt).1 (nats.unsubscribe subject fn_name rt).2 := by
  unfold unsubscribe
  cases hlook : nats.subscriptions.lookup subject with
  | none => exact h
  | some old =>
    dsimp only
    split_ifs
    · exact handlers_erase h hlook
    · exact handlers_insert h hlook

/-- `unsubscribe_subject` keeps the handlers of the other subjects. -/
theorem handlers_unsubscribeSubject (h : Handlers nats rt) :
    Handlers (nats.unsubscribeSubject subject rt).1 (nats.unsubscribeSubject subject rt).2 := by
  unfold unsubscribeSubject
  cases hlook : nats.subscriptions.lookup subject with
  | none => exact h
  | some old => exact handlers_erase h hlook

/-- `run_callbacks` keeps the handlers, also of a subject without functions. -/
theorem handlers_runCallbacks {σ : Type} {data : List UInt8} {db : σ}
    {callback : σ → String → List UInt8 → σ × Except CallError Unit} (h : Handlers nats rt) :
    Handlers (nats.runCallbacks subject data callback db).1 rt := by
  unfold runCallbacks
  cases hlook : nats.subscriptions.lookup subject with
  | none => exact h
  | some old => exact handlers_insert h hlook

/-- `unsubscribe_all` leaves no subject and no task. -/
theorem handlers_unsubscribeAll (h : Handlers nats rt) :
    Handlers (nats.unsubscribeAll rt).2.1 (nats.unsubscribeAll rt).2.2 := by
  refine ⟨fun s sub hsub => absurd hsub (by simp [unsubscribeAll]), ?_⟩
  intro i task htask hlive
  rw [aborted_of_unsubscribeAll h.owned htask] at hlive
  exact absurd hlive (by simp)

/-- The loop of `reconnect_nats` leaves the tasks that are there, and each new handler is a task of
its subject on the new client. -/
theorem respawn_live {client : Client} (entries : List (Sigma fun _ : String => NatsSubscription)) :
    ∀ rt : Runtime,
      (∀ (i : ℕ) (task : Task), rt.tasks[i]? = some task →
        (HashMap.mapAccumEntries (respawn client) rt entries).1.tasks[i]? = some task) ∧
      ∀ s sub, ⟨s, sub⟩ ∈ (HashMap.mapAccumEntries (respawn client) rt entries).2 →
        (HashMap.mapAccumEntries (respawn client) rt entries).1.tasks[sub.handler]? =
          some { client, subject := s, aborted := false } := by
  -- By induction on the entries: what later entries spawn comes behind the tasks that are there.
  induction entries with
  | nil => exact fun rt => ⟨fun _ _ h => h, fun _ _ h => absurd h List.not_mem_nil⟩
  | cons e entries ih =>
    obtain ⟨k, v⟩ := e
    intro rt
    obtain ⟨hkeep, hnew⟩ := ih (rt.spawn client k).1
    constructor
    · exact fun i task h => hkeep i task (getElem?_spawn_of_some h)
    · intro s sub hmem
      rcases List.mem_cons.mp hmem with heq | hmem
      · obtain ⟨rfl, hsub⟩ := Sigma.mk.inj heq
        obtain rfl := eq_of_heq hsub
        exact hkeep _ _ getElem?_spawn_self
      · exact hnew s sub hmem

/-- `reconnect_nats` gives each subject a handler on the new client. -/
theorem handlers_reconnectNats {opts : NatsConnectionOptions} {connected : Bool}
    (h : Handlers nats rt) : Handlers (nats.reconnectNats opts rt connected).1
      (nats.reconnectNats opts rt connected).2.1 := by
  refine ⟨?_, owned_reconnectNats h.owned⟩
  unfold reconnectNats
  split_ifs
  · intro s sub hsub
    exact (respawn_live _ _).2 s sub (AList.mem_lookup_iff.mp hsub)
  · exact h.live

/-- A new connection has no subject and no task. -/
theorem handlers_new (opts : NatsConnectionOptions) :
    Handlers (new Runtime.new opts).1 (new Runtime.new opts).2 := by
  refine ⟨fun s sub hsub => absurd hsub (by simp [new]), fun i task htask => ?_⟩
  exact absurd htask (by simp [new, Runtime.new, Runtime.connect])

end Handlers

/-! ## The operations -/

/-- The operations of a connection. `outcome` says how the call of each function ends, and
`connected` whether the new connection is made. -/
inductive Operation where
  /-- `subscribe`. -/
  | subscribe (subject fn_name : String)
  /-- `unsubscribe`. -/
  | unsubscribe (subject fn_name : String)
  /-- `unsubscribe_subject`. -/
  | unsubscribeSubject (subject : String)
  /-- `run_callbacks`. -/
  | runCallbacks (subject : String) (data : List UInt8) (outcome : String → Except CallError Unit)
  /-- `unsubscribe_all`. -/
  | unsubscribeAll
  /-- `reconnect_nats`. -/
  | reconnectNats (opts : NatsConnectionOptions) (connected : Bool)

/-- A callback whose calls end as given. -/
def callOutcome (outcome : String → Except CallError Unit) (u : Unit) (fnname : String)
    (_ : List UInt8) : Unit × Except CallError Unit :=
  (u, outcome fnname)

/-- An operation on a connection and its runtime. -/
def perform (nats : NatsConnectionState) (rt : Runtime) :
    Operation → NatsConnectionState × Runtime
  | .subscribe subject fn_name => nats.subscribe subject fn_name rt
  | .unsubscribe subject fn_name => nats.unsubscribe subject fn_name rt
  | .unsubscribeSubject subject => nats.unsubscribeSubject subject rt
  | .runCallbacks subject data outcome =>
    ((nats.runCallbacks subject data (callOutcome outcome) ()).1, rt)
  | .unsubscribeAll => (nats.unsubscribeAll rt).2
  | .reconnectNats opts connected =>
    let (nats, rt, _) := nats.reconnectNats opts rt connected
    (nats, rt)

/-- One operation, which is always possible. -/
def step (s : NatsConnectionState × Runtime) (op : Operation) :
    Option (NatsConnectionState × Runtime) :=
  some (s.1.perform s.2 op)

/-- Every operation keeps the handlers. -/
theorem handlers_step {s s' : NatsConnectionState × Runtime} {op : Operation}
    (h : Handlers s.1 s.2) (hstep : step s op = some s') : Handlers s'.1 s'.2 := by
  obtain rfl : s.1.perform s.2 op = s' := Option.some.inj hstep
  cases op with
  | subscribe subject fn_name => exact handlers_subscribe h
  | unsubscribe subject fn_name => exact handlers_unsubscribe h
  | unsubscribeSubject subject => exact handlers_unsubscribeSubject h
  | runCallbacks subject data outcome =>
    show Handlers (s.1.runCallbacks subject data (callOutcome outcome) ()).1 s.2
    exact handlers_runCallbacks h
  | unsubscribeAll => exact handlers_unsubscribeAll h
  | reconnectNats opts connected => exact handlers_reconnectNats h

/-- After every sequence of operations, the handler of a subject in the map is a task for it on the
client in use, and it is the only task for the subject that is not aborted. Every task that is no
handler is aborted. -/
theorem one_handler_per_subject (opts : NatsConnectionOptions) {ops : List Operation}
    {nats : NatsConnectionState} {rt : Runtime}
    (hrun : Run.run step (new Runtime.new opts) ops = some (nats, rt)) :
    (∀ subject sub, nats.subscriptions.lookup subject = some sub →
      rt.tasks[sub.handler]? = some { client := nats.client, subject, aborted := false } ∧
        ∀ i task, rt.tasks[i]? = some task → task.subject = subject → task.aborted = false →
          i = sub.handler) ∧
      ∀ i task, rt.tasks[i]? = some task →
        (∀ subject sub, nats.subscriptions.lookup subject = some sub → sub.handler ≠ i) →
          task.aborted = true := by
  have h : Handlers nats rt :=
    Run.run_invariant_of_step (fun _ _ _ => handlers_step) (handlers_new opts) hrun
  refine ⟨fun subject sub hsub => ⟨h.live subject sub hsub, ?_⟩, fun i task htask hno => ?_⟩
  · rintro i task htask rfl hlive
    obtain ⟨-, sub', hsub', rfl⟩ := h.of_live htask hlive
    rw [Option.some.inj (hsub'.symm.trans hsub)]
  · by_contra hlive
    obtain ⟨s, sub, hsub, hi⟩ := h.owned i task htask (Bool.eq_false_iff.mpr hlive)
    exact hno s sub hsub hi

/-- Two subjects, one of which is unsubscribed, on a connection that is made again. -/
theorem one_handler_after_reconnect :
    ∃ nats rt, Run.run step (new Runtime.new (validatorConfig []).nats_opt)
        [.subscribe "a" "f", .subscribe "b" "g", .unsubscribe "a" "f",
          .reconnectNats (validatorConfig ["port=4223"]).nats_opt true] = some (nats, rt) ∧
      ∀ i task, rt.tasks[i]? = some task →
        (∀ subject sub, nats.subscriptions.lookup subject = some sub → sub.handler ≠ i) →
          task.aborted = true := by
  obtain ⟨nats, rt, hrun⟩ : ∃ nats rt, Run.run step
      (new Runtime.new (validatorConfig []).nats_opt)
      [.subscribe "a" "f", .subscribe "b" "g", .unsubscribe "a" "f",
        .reconnectNats (validatorConfig ["port=4223"]).nats_opt true] = some (nats, rt) :=
    ⟨_, _, rfl⟩
  exact ⟨nats, rt, hrun, (one_handler_per_subject _ hrun).2⟩

/-! ## Subjects without functions -/

/-- Each subject in the map has a function. -/
def Nonempty (nats : NatsConnectionState) : Prop :=
  ∀ subject sub, nats.subscriptions.lookup subject = some sub → ∃ f, f ∈ sub.funcs

/-- Each subject in the map has a function, and so has the subject of each task that is not
aborted. -/
def Listened (s : NatsConnectionState × Runtime) : Prop :=
  Nonempty s.1 ∧ ∀ task ∈ s.2.tasks, task.aborted = false → ∃ f, s.1.Registered task.subject f

/-- The condition on an operation: some function of the subject of a message is found. -/
def KeepsFunction (s : NatsConnectionState × Runtime) : Operation → Prop
  | .runCallbacks subject _ outcome => ∀ sub, s.1.subscriptions.lookup subject = some sub →
    ∃ f ∈ sub.funcs, outcome f ≠ .error .notFound
  | _ => True

section Listened

variable {nats : NatsConnectionState} {rt : Runtime} {subject fn_name : String}

/-- A subject with a function may be put in the map. -/
theorem Nonempty.insert (h : Nonempty nats) {sub : NatsSubscription} (hsub : ∃ f, f ∈ sub.funcs) :
    Nonempty { nats with subscriptions := nats.subscriptions.insert subject sub } := by
  intro s sub' hlook
  rcases HashMap.lookup_insert_eq_some hlook with ⟨-, rfl⟩ | hold
  · exact hsub
  · exact h s sub' hold

/-- A subject may be taken out of the map. -/
theorem Nonempty.erase (h : Nonempty nats) :
    Nonempty { nats with subscriptions := nats.subscriptions.erase subject } :=
  fun s sub hlook => h s sub (HashMap.lookup_erase_eq_some hlook).2

/-- The subjects and the handlers together. -/
theorem listened_of_nonempty (hhandlers : Handlers nats rt) (h : Nonempty nats) :
    Listened (nats, rt) := by
  refine ⟨h, fun task hmem hlive => ?_⟩
  obtain ⟨i, hi⟩ := List.mem_iff_getElem?.mp hmem
  obtain ⟨-, sub, hsub, -⟩ := hhandlers.of_live hi hlive
  obtain ⟨f, hf⟩ := h _ sub hsub
  exact ⟨f, sub, hsub, hf⟩

/-- What `run_callbacks` keeps of a subject's functions, by how their calls end. -/
theorem mem_retain_outcome {data : List UInt8} {outcome : String → Except CallError Unit}
    {funcs : HashSet String} {f : String} :
    f ∈ (funcs.retain (runCallback (callOutcome outcome) data) ()).2 ↔
      f ∈ funcs ∧ outcome f ≠ .error .notFound := by
  have hkeep : ∀ (u : Unit) (f : String), (runCallback (callOutcome outcome) data u f).2 =
      !decide (outcome f = .error .notFound) := runCallback_snd
  rw [HashSet.mem_retain hkeep, Bool.not_eq_true', decide_eq_false_iff_not]

/-- An operation that meets the condition leaves no subject without a function. -/
theorem nonempty_perform (h : Nonempty nats) {op : Operation}
    (hok : KeepsFunction (nats, rt) op) : Nonempty (nats.perform rt op).1 := by
  cases op with
  | subscribe subject fn_name =>
    show Nonempty (nats.subscribe subject fn_name rt).1
    unfold subscribe
    cases nats.subscriptions.lookup subject with
    | none => exact h.insert ⟨fn_name, HashSet.mem_singleton.mpr rfl⟩
    | some sub => exact h.insert ⟨fn_name, HashSet.mem_insert.mpr (Or.inl rfl)⟩
  | unsubscribe subject fn_name =>
    show Nonempty (nats.unsubscribe subject fn_name rt).1
    unfold unsubscribe
    cases nats.subscriptions.lookup subject with
    | none => exact h
    | some sub =>
      dsimp only
      split_ifs with hempty
      · exact h.erase
      · -- The emptiness check keeps a subject only with a function.
        rw [HashSet.isEmpty_iff] at hempty
        push Not at hempty
        exact h.insert hempty
  | unsubscribeSubject subject =>
    show Nonempty (nats.unsubscribeSubject subject rt).1
    unfold unsubscribeSubject
    cases nats.subscriptions.lookup subject with
    | none => exact h
    | some sub => exact h.erase
  | runCallbacks subject data outcome =>
    show Nonempty (nats.runCallbacks subject data _ ()).1
    unfold runCallbacks
    cases hlook : nats.subscriptions.lookup subject with
    | none => exact h
    | some sub =>
      obtain ⟨f, hf, hfound⟩ := hok sub hlook
      exact h.insert ⟨f, mem_retain_outcome.mpr ⟨hf, hfound⟩⟩
  | unsubscribeAll => exact fun s sub hlook => absurd hlook (by simp [perform, unsubscribeAll])
  | reconnectNats opts connected =>
    -- A reconnect gives each subject another handler, and keeps its functions.
    intro s sub hlook
    replace hlook : (nats.reconnectNats opts rt connected).1.subscriptions.lookup s = some sub :=
      hlook
    have hfuncs : (nats.subscriptions.lookup s).map NatsSubscription.funcs = some sub.funcs := by
      rw [← funcs_reconnectNats, hlook]
      rfl
    obtain ⟨old, hold, heq⟩ := Option.map_eq_some_iff.mp hfuncs
    exact heq ▸ h s old hold

/-- A message whose functions are all missing leaves their subject in the map. -/
theorem not_listened_of_not_keepsFunction {s s' : NatsConnectionState × Runtime} {op : Operation}
    (hok : ¬ KeepsFunction s op) (hstep : step s op = some s') : ¬ Listened s' := by
  obtain rfl : s.1.perform s.2 op = s' := Option.some.inj hstep
  cases op with
  | runCallbacks subject data outcome =>
    unfold KeepsFunction at hok
    push Not at hok
    obtain ⟨sub, hsub, hgone⟩ := hok
    rintro ⟨hlistened, -⟩
    -- The entry stays in the map, with the functions that were found, and there are none.
    have hentry : (s.1.runCallbacks subject data (callOutcome outcome) ()).1.subscriptions.lookup
        subject = some { sub with
          funcs := (sub.funcs.retain (runCallback (callOutcome outcome) data) ()).2 } := by
      unfold runCallbacks
      rw [hsub]
      exact AList.lookup_insert _
    obtain ⟨f, hf⟩ := hlistened subject _ hentry
    obtain ⟨hmem, hfound⟩ := mem_retain_outcome.mp hf
    exact hfound (hgone f hmem)
  | _ => exact absurd trivial hok

end Listened

/-- Every state of a sequence of operations has a function for each subject, and none but the tasks
of such subjects unaborted, exactly when each message of the sequence leaves its subject a
function. -/
theorem listened_iff (opts : NatsConnectionOptions) (ops : List Operation) :
    (∀ pre, pre <+: ops → ∀ s, Run.run step (new Runtime.new opts) pre = some s → Listened s) ↔
      RunAll step KeepsFunction (new Runtime.new opts) ops := by
  have hgood : ∀ s : NatsConnectionState × Runtime, Handlers s.1 s.2 ∧ Nonempty s.1 →
      Listened s := fun s hs => listened_of_nonempty hs.1 hs.2
  have hkeep : ∀ s op s', (Handlers s.1 s.2 ∧ Nonempty s.1) → KeepsFunction s op →
      step s op = some s' → Handlers s'.1 s'.2 ∧ Nonempty s'.1 := by
    rintro s op s' ⟨hhandlers, hs⟩ hok hstep
    refine ⟨handlers_step hhandlers hstep, ?_⟩
    obtain rfl : s.1.perform s.2 op = s' := Option.some.inj hstep
    exact nonempty_perform hs hok
  have hnew : Handlers (new Runtime.new opts).1 (new Runtime.new opts).2 ∧
      Nonempty (new Runtime.new opts).1 :=
    ⟨handlers_new opts, fun s sub hsub => absurd hsub (by simp [new])⟩
  obtain ⟨s, hrun⟩ := Run.run_total (fun s op => ⟨_, rfl⟩) (new Runtime.new opts) ops
  exact (Run.runAll_iff_forall_prefix hgood hkeep
    (fun _ _ _ _ => not_listened_of_not_keepsFunction) hnew hrun).symm

/-- A message for a subject whose only function is missing: the subject stays in the map without a
function, and its task is not aborted. -/
theorem unlistened_after_message :
    ∃ nats rt sub, Run.run step (new Runtime.new (validatorConfig []).nats_opt)
        [.subscribe "orders" "public.on_order",
          .runCallbacks "orders" [1] fun _ => .error .notFound] = some (nats, rt) ∧
      nats.subscriptions.lookup "orders" = some sub ∧ sub.funcs.isEmpty = true ∧
      rt.tasks[sub.handler]? =
        some { client := nats.client, subject := "orders", aborted := false } ∧
      ¬ Listened (nats, rt) := by
  obtain ⟨nats, rt, sub, hrun, hsub, hempty, htask⟩ : ∃ nats rt sub,
      Run.run step (new Runtime.new (validatorConfig []).nats_opt)
        [.subscribe "orders" "public.on_order",
          .runCallbacks "orders" [1] fun _ => .error .notFound] = some (nats, rt) ∧
      nats.subscriptions.lookup "orders" = some sub ∧ sub.funcs.isEmpty = true ∧
      rt.tasks[sub.handler]? =
        some { client := nats.client, subject := "orders", aborted := false } :=
    ⟨_, _, _, rfl, rfl, rfl, rfl⟩
  refine ⟨nats, rt, sub, hrun, hsub, hempty, htask, ?_⟩
  rintro ⟨hlistened, -⟩
  obtain ⟨f, hf⟩ := hlistened "orders" sub hsub
  exact HashSet.isEmpty_iff.mp hempty f hf

end NatsConnectionState

/-! ## The handlers in the main loop -/

namespace SubscriberContext

variable {ctx : SubscriberContext} {db : Database}

/-- The handlers of a context's connection fit the map. -/
abbrev Handlers (ctx : SubscriberContext) : Prop := ctx.nats.Handlers ctx.rt

/-- The check of the role keeps the handlers: a demotion leaves none. -/
theorem handlers_checkMigration (h : ctx.Handlers) (env : Env) :
    (ctx.checkMigration db env).1.Handlers := by
  rcases ctx.checkMigration_cases db env with
    ⟨-, hctx⟩ | ⟨-, -, published, hctx⟩ | ⟨-, -, published, hctx⟩
  · rw [hctx]
    exact h
  · rw [hctx]
    have hnone := NatsConnectionState.handlers_unsubscribeAll h
    exact ⟨hnone.live, hnone.owned⟩
  · rw [hctx]
    exact ⟨h.live, h.owned⟩

/-- A new configuration keeps the handlers, on the client that is then in use. -/
theorem handlers_applyConfig (h : ctx.Handlers) (config : Config) (connected : Bool) :
    (ctx.applyConfig config connected).1.Handlers := by
  rcases ctx.applyConfig_cases config connected with ⟨-, happly⟩ | ⟨-, -, happly⟩ | ⟨-, -, happly⟩
  · rw [happly]
    exact h
  · rw [happly]
    exact h
  · rw [happly]
    exact NatsConnectionState.handlers_reconnectNats h

/-- A message of the queue keeps the handlers. -/
theorem handlers_handleMessageFromSharedQueue (h : ctx.Handlers) (connected : Bool)
    (msg : SubscriberMessage) : (handleMessageFromSharedQueue ctx connected msg).Handlers := by
  cases msg with
  | newConfig config => exact handlers_applyConfig h config connected
  | subscribe subject fn_name => exact h
  | unsubscribe subject fn_name => exact h

/-- A message of the channel keeps the handlers. -/
theorem handlers_handleInternalMessage (h : ctx.Handlers)
    (outcome : String → Except CallError Unit) (msg : InternalWorkerMessage) :
    (handleInternalMessage ctx db outcome msg).1.Handlers := by
  cases msg with
  | subscribe register subject fn_name => exact NatsConnectionState.handlers_subscribe h
  | unsubscribe subject fn_name => exact NatsConnectionState.handlers_unsubscribe h
  | callbackCall subject data => exact NatsConnectionState.handlers_runCallbacks h
  | unsubscribeSubject subject reason => exact NatsConnectionState.handlers_unsubscribeSubject h

end SubscriberContext

namespace Subscriber

/-- A new process has no handlers. -/
theorem handlers_start (db : Database) (handled : List Request) (config : Config) (env : Env) :
    (start db handled config env).ctx.Handlers := by
  have hnew := NatsConnectionState.handlers_new config.nats_opt
  obtain ⟨published, hstart⟩ := start_eq db handled config env
  rw [hstart]
  exact ⟨hnew.live, hnew.owned⟩

/-- Every step keeps the handlers. -/
theorem handlers_step {s s' : Subscriber} {e : Event} (h : s.ctx.Handlers)
    (hstep : step s e = some s') : s'.ctx.Handlers := by
  cases transition_of_step hstep with
  | deliver msg hlive => exact h
  | report hlive htask => exact h
  | wake hphase => exact SubscriberContext.handlers_checkMigration h _
  | sharedRecv hphase hrecv =>
    exact SubscriberContext.handlers_handleMessageFromSharedQueue h _ _
  | sharedEmpty hphase => exact h
  | @internalRecv outcome msg rest hphase hsender =>
    unfold internal
    dsimp only
    split_ifs
    · exact h
    · exact SubscriberContext.handlers_handleInternalMessage
        (show SubscriberContext.Handlers { s.ctx with sender := rest } from h) outcome msg
  | internalEmpty hphase hsender => exact h
  | exit result hcause => exact h
  | restart config env => exact handlers_start _ _ _ _

end Subscriber

end PgNats
