import PgNats.Connect
import PgNats.Lib.Collections
import PgNats.Subscriber.PgApi

/-!
# The subscriber's NATS connection

The model of `src/bgw/subscriber/nats.rs`. A subscription of a subject is a handler task and the set
of callback functions. `Runtime` is what the process has done outside its own memory: the tasks
spawned so far, of which a `JoinHandle` is the index, the number of clients opened, and the messages
published. An aborted task stays in the list with its mark.
-/

namespace PgNats

/-- A task of `spawn_subscription_task`. -/
structure Task where
  /-- The client that it subscribes on. -/
  client : Client
  /-- The subject that it subscribes to. -/
  subject : String
  /-- Whether `abort` was called on its handle. -/
  aborted : Bool
  deriving DecidableEq, Repr

/-- The tokio runtime and what went out through it. -/
structure Runtime where
  /-- The tasks, in the order of their spawning. -/
  tasks : List Task
  /-- How many clients have been opened. -/
  connections : ℕ
  /-- The published messages: subject and notification. -/
  published : List (String × PgInstanceNotification)
  deriving DecidableEq, Repr

namespace Runtime

/-- A fresh runtime. -/
def new : Runtime := { tasks := [], connections := 0, published := [] }

/-- `spawn_subscription_task`: the new task's handle. -/
def spawn (rt : Runtime) (client : Client) (subject : String) : Runtime × ℕ :=
  ({ rt with tasks := rt.tasks ++ [{ client, subject, aborted := false }] }, rt.tasks.length)

/-- `JoinHandle::abort`. -/
def abort (rt : Runtime) (handler : ℕ) : Runtime :=
  { rt with tasks := rt.tasks.modify handler fun task => { task with aborted := true } }

/-- `connect_nats`, when the connection is made. -/
def connect (rt : Runtime) (opts : NatsConnectionOptions) : Runtime × Client :=
  ({ rt with connections := rt.connections + 1 }, { id := rt.connections, opts })

end Runtime

/-- `NatsSubscription`. -/
structure NatsSubscription where
  /-- The handle of the task that receives the subject's messages. -/
  handler : ℕ
  /-- The callback functions. -/
  funcs : HashSet String
  deriving DecidableEq

/-- `NatsConnectionState`. -/
structure NatsConnectionState where
  /-- The connection in use. -/
  client : Client
  /-- The subscribed subjects. -/
  subscriptions : HashMap String NatsSubscription
  deriving DecidableEq

namespace NatsConnectionState

/-- `NatsConnectionState::new`, when the connection is made. -/
def new (rt : Runtime) (opts : NatsConnectionOptions) : NatsConnectionState × Runtime :=
  let (rt, client) := rt.connect opts
  ({ client, subscriptions := ∅ }, rt)

/-- `NatsConnectionState::subscribe`. -/
def subscribe (nats : NatsConnectionState) (subject fn_name : String) (rt : Runtime) :
    NatsConnectionState × Runtime :=
  match nats.subscriptions.lookup subject with
  | some s =>
    let s := { s with funcs := s.funcs.insert fn_name }
    -- A subject that is there keeps its task.
    ({ nats with subscriptions := nats.subscriptions.insert subject s }, rt)
  | none =>
    let (rt, handler) := rt.spawn nats.client subject
    let s := { handler, funcs := HashSet.singleton fn_name }
    ({ nats with subscriptions := nats.subscriptions.insert subject s }, rt)

/-- `NatsConnectionState::unsubscribe`. -/
def unsubscribe (nats : NatsConnectionState) (subject fn_name : String) (rt : Runtime) :
    NatsConnectionState × Runtime :=
  match nats.subscriptions.lookup subject with
  | some s =>
    let s := { s with funcs := s.funcs.remove fn_name }
    if s.funcs.isEmpty then
      ({ nats with subscriptions := nats.subscriptions.erase subject }, rt.abort s.handler)
    else
      ({ nats with subscriptions := nats.subscriptions.insert subject s }, rt)
  | none => (nats, rt)

/-- `NatsConnectionState::unsubscribe_subject`. -/
def unsubscribeSubject (nats : NatsConnectionState) (subject : String) (rt : Runtime) :
    NatsConnectionState × Runtime :=
  match nats.subscriptions.lookup subject with
  | some s => ({ nats with subscriptions := nats.subscriptions.erase subject }, rt.abort s.handler)
  | none => (nats, rt)

/-- `NatsConnectionState::unsubscribe_all`: the map that was there. -/
def unsubscribeAll (nats : NatsConnectionState) (rt : Runtime) :
    HashMap String NatsSubscription × NatsConnectionState × Runtime :=
  -- The tasks are aborted, the map is taken.
  (nats.subscriptions, { nats with subscriptions := ∅ },
    nats.subscriptions.values.foldl (fun rt sub => rt.abort sub.handler) rt)

/-- The closure of `run_callbacks`: the function is kept unless the call finds that it is gone. The
calls change the state `db`. -/
def runCallback {σ : Type} (callback : σ → String → List UInt8 → σ × Except CallError Unit)
    (data : List UInt8) (db : σ) (fnname : String) : σ × Bool :=
  match callback db fnname data with
  | (db, .error .notFound) => (db, false)
  | (db, .error (.other _)) => (db, true)
  | (db, .ok ()) => (db, true)

/-- `NatsConnectionState::run_callbacks`. -/
def runCallbacks {σ : Type} (nats : NatsConnectionState) (subject : String) (data : List UInt8)
    (callback : σ → String → List UInt8 → σ × Except CallError Unit)
    (db : σ) : NatsConnectionState × σ :=
  match nats.subscriptions.lookup subject with
  | some s =>
    let (db, funcs) := s.funcs.retain (runCallback callback data) db
    -- A subject whose last function is gone keeps its entry and its task.
    ({ nats with subscriptions := nats.subscriptions.insert subject { s with funcs } }, db)
  | none => (nats, db)

/-- The body of the loop of `reconnect_nats`: a new task for the subject. -/
def respawn (client : Client) (rt : Runtime) (subject : String) (sub : NatsSubscription) :
    Runtime × NatsSubscription :=
  let (rt, handler) := rt.spawn client subject
  (rt, { sub with handler })

/-- `NatsConnectionState::reconnect_nats`: each subject gets a new task on the new client. Nothing
changes when the connection fails. A connect that panics, as `async-nats` does for a capacity of 0,
is not modelled. -/
def reconnectNats (nats : NatsConnectionState) (opts : NatsConnectionOptions) (rt : Runtime)
    (connected : Bool) : NatsConnectionState × Runtime × Except Unit Unit :=
  if connected then
    let (rt, client) := rt.connect opts
    let (subs, nats, rt) := nats.unsubscribeAll rt
    -- The old tasks are aborted above, so each subject has one live task again.
    let (rt, subs) := subs.mapAccum (respawn client) rt
    ({ nats with client, subscriptions := subs }, rt, .ok ())
  else (nats, rt, .error ())

/-- The function `f` is called for the messages of `subject`. -/
def Registered (nats : NatsConnectionState) (subject f : String) : Prop :=
  ∃ s, nats.subscriptions.lookup subject = some s ∧ f ∈ s.funcs

/-! ## The registered functions -/

section Registered

variable {nats : NatsConnectionState} {rt : Runtime} {subject fn_name s f : String}

/-- Whether a function is registered depends on the function sets only. -/
theorem exists_lookup_iff {subs : HashMap String NatsSubscription} :
    (∃ sub, subs.lookup s = some sub ∧ f ∈ sub.funcs) ↔
      ∃ funcs, (subs.lookup s).map NatsSubscription.funcs = some funcs ∧ f ∈ funcs := by
  constructor
  · rintro ⟨sub, hsub, hf⟩
    exact ⟨sub.funcs, by rw [hsub]; rfl, hf⟩
  · rintro ⟨funcs, hfuncs, hf⟩
    obtain ⟨sub, hsub, rfl⟩ := Option.map_eq_some_iff.mp hfuncs
    exact ⟨sub, hsub, hf⟩

/-- The functions of a subject are those of its entry. -/
theorem registered_of_lookup {sub : NatsSubscription}
    (hlook : nats.subscriptions.lookup subject = some sub) :
    Registered nats subject f ↔ f ∈ sub.funcs := by
  unfold Registered
  rw [hlook]
  simp

/-- A subject without an entry has no function. -/
theorem not_registered_of_lookup (hlook : nats.subscriptions.lookup subject = none) :
    ¬ Registered nats subject f := by
  rintro ⟨sub, hsub, -⟩
  exact absurd (hlook.symm.trans hsub) (by simp)

/-- A new entry of one subject decides that subject, and the others are as before. -/
theorem registered_insert {sub : NatsSubscription} :
    Registered { nats with subscriptions := nats.subscriptions.insert subject sub } s f ↔
      (s = subject ∧ f ∈ sub.funcs) ∨ (s ≠ subject ∧ Registered nats s f) := by
  unfold Registered
  dsimp only
  rcases eq_or_ne s subject with rfl | hne
  · rw [AList.lookup_insert]
    simp
  · rw [AList.lookup_insert_ne hne]
    simp [hne]

/-- An erased subject has no function, and the others are as before. -/
theorem registered_erase :
    Registered { nats with subscriptions := nats.subscriptions.erase subject } s f ↔
      s ≠ subject ∧ Registered nats s f := by
  unfold Registered
  dsimp only
  rcases eq_or_ne s subject with rfl | hne
  · rw [AList.lookup_erase]
    simp
  · rw [AList.lookup_erase_ne hne]
    simp [hne]

/-- `subscribe` registers the function, and nothing else. -/
theorem registered_subscribe : Registered (nats.subscribe subject fn_name rt).1 s f ↔
    (s, f) = (subject, fn_name) ∨ Registered nats s f := by
  unfold subscribe
  cases hlook : nats.subscriptions.lookup subject with
  | none =>
    dsimp only
    rw [registered_insert, HashSet.mem_singleton, Prod.mk.injEq]
    constructor
    · rintro (h | ⟨-, h⟩)
      · exact Or.inl h
      · exact Or.inr h
    · rintro (h | h)
      · exact Or.inl h
      · refine Or.inr ⟨?_, h⟩
        rintro rfl
        exact not_registered_of_lookup hlook h
  | some sub =>
    dsimp only
    rw [registered_insert, HashSet.mem_insert, Prod.mk.injEq]
    rcases eq_or_ne s subject with rfl | hne
    · rw [registered_of_lookup hlook]
      simp
    · simp [hne]

/-- `unsubscribe` unregisters the function, and nothing else. -/
theorem registered_unsubscribe : Registered (nats.unsubscribe subject fn_name rt).1 s f ↔
    (s, f) ≠ (subject, fn_name) ∧ Registered nats s f := by
  unfold unsubscribe
  rw [Ne, Prod.mk.injEq]
  cases hlook : nats.subscriptions.lookup subject with
  | none =>
    dsimp only
    refine ⟨fun h => ⟨?_, h⟩, fun h => h.2⟩
    rintro ⟨rfl, -⟩
    exact not_registered_of_lookup hlook h
  | some sub =>
    dsimp only
    have hreg := registered_of_lookup (f := f) hlook
    split_ifs with hempty
    · -- The last function of the subject is gone, and the entry with it.
      rw [registered_erase]
      have hnone := HashSet.isEmpty_iff.mp hempty f
      rw [HashSet.mem_remove] at hnone
      rcases eq_or_ne s subject with rfl | hne
      · rw [hreg]
        simp only [ne_eq, not_true_eq_false, false_and, true_and]
        exact ⟨False.elim, fun h => hnone h⟩
      · simp [hne]
    · rw [registered_insert, HashSet.mem_remove]
      rcases eq_or_ne s subject with rfl | hne
      · rw [hreg]
        simp
      · simp [hne]

/-- `unsubscribe_subject` unregisters the functions of the subject, and nothing else. -/
theorem registered_unsubscribeSubject :
    Registered (nats.unsubscribeSubject subject rt).1 s f ↔
      s ≠ subject ∧ Registered nats s f := by
  unfold unsubscribeSubject
  cases hlook : nats.subscriptions.lookup subject with
  | none =>
    refine ⟨fun h => ⟨?_, h⟩, fun h => h.2⟩
    rintro rfl
    exact not_registered_of_lookup hlook h
  | some sub => exact registered_erase

/-- The closure of `run_callbacks` keeps a function unless its call reports that it is gone. -/
theorem runCallback_snd {σ : Type} {data : List UInt8}
    {callback : σ → String → List UInt8 → σ × Except CallError Unit} (db : σ) (fnname : String) :
    (runCallback callback data db fnname).2 =
      !decide ((callback db fnname data).2 = .error .notFound) := by
  unfold runCallback
  generalize callback db fnname data = result
  obtain ⟨db', (_ | error) | _⟩ := result
  · rfl
  · simp
  · rfl

/-- The closure of `run_callbacks` calls the function. -/
theorem runCallback_fst {σ : Type} {data : List UInt8}
    {callback : σ → String → List UInt8 → σ × Except CallError Unit} (db : σ) (fnname : String) :
    (runCallback callback data db fnname).1 = (callback db fnname data).1 := by
  unfold runCallback
  split <;> simp only [*]

/-- A function is registered after a message when it was, and the closure keeps it, if that does not
depend on the calls before. -/
theorem registered_runCallbacks_iff {σ : Type} {data : List UInt8} {db : σ}
    {callback : σ → String → List UInt8 → σ × Except CallError Unit} {keep : String → Bool}
    (hkeep : ∀ db fnname, (runCallback callback data db fnname).2 = keep fnname) :
    Registered (nats.runCallbacks subject data callback db).1 s f ↔
      Registered nats s f ∧ (s = subject → keep f = true) := by
  unfold runCallbacks
  cases hlook : nats.subscriptions.lookup subject with
  | none =>
    refine ⟨fun h => ⟨h, ?_⟩, fun h => h.1⟩
    rintro rfl
    exact absurd h (not_registered_of_lookup hlook)
  | some sub =>
    dsimp only
    rw [registered_insert, HashSet.mem_retain hkeep]
    rcases eq_or_ne s subject with rfl | hne
    · rw [registered_of_lookup hlook]
      simp
    · simp [hne]

/-- `run_callbacks` changes no registration when every called function exists. -/
theorem registered_runCallbacks {σ : Type} {data : List UInt8} {db : σ}
    {callback : σ → String → List UInt8 → σ × Except CallError Unit}
    (hfound : ∀ db fnname, (callback db fnname data).2 ≠ .error .notFound) :
    Registered (nats.runCallbacks subject data callback db).1 s f ↔ Registered nats s f := by
  have hkeep : ∀ db fnname, (runCallback callback data db fnname).2 = true := by
    intro db fnname
    rw [runCallback_snd, decide_eq_false (hfound db fnname)]
    rfl
  rw [registered_runCallbacks_iff hkeep]
  simp

/-- `run_callbacks` changes no row when no call does. -/
theorem runCallbacks_subscriptions {data : List UInt8} {db : Database}
    {callback : Database → String → List UInt8 → Database × Except CallError Unit}
    (hrows : ∀ db fnname, (callback db fnname data).1.subscriptions = db.subscriptions) :
    (nats.runCallbacks subject data callback db).2.subscriptions = db.subscriptions := by
  unfold runCallbacks
  cases nats.subscriptions.lookup subject with
  | none => rfl
  | some sub =>
    have hstep : ∀ d fnname, d.subscriptions = db.subscriptions →
        (runCallback callback data d fnname).1.subscriptions = db.subscriptions := by
      intro d fnname hd
      have hcall := hrows d fnname
      unfold runCallback
      generalize callback d fnname data = result at hcall ⊢
      obtain ⟨db', (_ | error) | _⟩ := result
      · exact hcall.trans hd
      · exact hcall.trans hd
      · exact hcall.trans hd
    exact HashSet.retain_state hstep rfl sub.funcs

/-- `reconnect_nats` changes no function set. -/
theorem funcs_reconnectNats {opts : NatsConnectionOptions} {connected : Bool} :
    ((nats.reconnectNats opts rt connected).1.subscriptions.lookup s).map NatsSubscription.funcs =
      (nats.subscriptions.lookup s).map NatsSubscription.funcs := by
  unfold reconnectNats
  split_ifs
  · exact HashMap.lookup_mapAccum_map (respawn (rt.connect opts).2) NatsSubscription.funcs
      NatsSubscription.funcs (fun _ _ _ => rfl) (nats.unsubscribeAll (rt.connect opts).1).2.2
      nats.subscriptions s
  · rfl

/-- `reconnect_nats` changes no registration. -/
theorem registered_reconnectNats {opts : NatsConnectionOptions} {connected : Bool} :
    Registered (nats.reconnectNats opts rt connected).1 s f ↔ Registered nats s f := by
  unfold Registered
  rw [exists_lookup_iff, exists_lookup_iff, funcs_reconnectNats]

end Registered

/-! ## The handler tasks -/

/-- Every task that is not aborted is the handler of a subscribed subject. -/
def Owned (nats : NatsConnectionState) (rt : Runtime) : Prop :=
  ∀ i task, rt.tasks[i]? = some task → task.aborted = false →
    ∃ s sub, nats.subscriptions.lookup s = some sub ∧ sub.handler = i

section Owned

variable {nats : NatsConnectionState} {rt : Runtime} {subject fn_name : String}

/-- A task that is not aborted after an abort is another one than the aborted one, and was there. -/
theorem getElem?_abort {handler i : ℕ} {task : Task} (h : (rt.abort handler).tasks[i]? = some task)
    (hlive : task.aborted = false) : i ≠ handler ∧ rt.tasks[i]? = some task := by
  unfold Runtime.abort at h
  rw [List.getElem?_modify] at h
  cases hi : rt.tasks[i]? with
  | none => rw [hi] at h; exact absurd h (by simp)
  | some old =>
    rw [hi] at h
    rcases eq_or_ne handler i with rfl | hne
    · obtain rfl : { old with aborted := true } = task := by simpa using h
      exact absurd hlive (by simp)
    · obtain rfl : old = task := by simpa [hne] using h
      exact ⟨hne.symm, rfl⟩

/-- A task that is not aborted after aborting the handlers of some subscriptions is none of them. -/
theorem getElem?_abortAll {subs : List NatsSubscription} {i : ℕ} {task : Task}
    (h : (subs.foldl (fun rt sub => rt.abort sub.handler) rt).tasks[i]? = some task)
    (hlive : task.aborted = false) :
    (∀ sub ∈ subs, sub.handler ≠ i) ∧ rt.tasks[i]? = some task := by
  induction subs generalizing rt with
  | nil => exact ⟨fun _ hmem => absurd hmem (by simp), h⟩
  | cons sub subs ih =>
    obtain ⟨hne, hrest⟩ := ih h
    obtain ⟨hi, htask⟩ := getElem?_abort hrest hlive
    refine ⟨fun sub' hmem => ?_, htask⟩
    rcases List.mem_cons.mp hmem with rfl | hmem
    · exact hi.symm
    · exact hne sub' hmem

/-- After a spawn, a task is the new one or was there. -/
theorem getElem?_spawn {client : Client} {i : ℕ} {task : Task}
    (h : (rt.spawn client subject).1.tasks[i]? = some task) :
    i = (rt.spawn client subject).2 ∨ rt.tasks[i]? = some task := by
  unfold Runtime.spawn at h ⊢
  dsimp only at h ⊢
  rw [List.getElem?_append] at h
  split_ifs at h with hlt
  · exact Or.inr h
  · refine Or.inl ?_
    have hlen := (List.getElem?_eq_some_iff.mp h).1
    rw [List.length_singleton] at hlen
    omega

/-- Changing the functions of a subject keeps the tasks owned. -/
theorem owned_insert {old : NatsSubscription} {funcs : HashSet String} (h : Owned nats rt)
    (hlook : nats.subscriptions.lookup subject = some old) :
    Owned { nats with subscriptions := nats.subscriptions.insert subject { old with funcs } }
      rt := by
  intro i task htask hlive
  obtain ⟨s, sub, hsub, hhandler⟩ := h i task htask hlive
  rcases eq_or_ne s subject with rfl | hne
  · obtain rfl : old = sub := Option.some.inj (hlook.symm.trans hsub)
    exact ⟨s, _, AList.lookup_insert _, hhandler⟩
  · exact ⟨s, sub, by rw [AList.lookup_insert_ne hne]; exact hsub, hhandler⟩

/-- `subscribe` keeps the tasks owned: only a new subject spawns one. -/
theorem owned_subscribe (h : Owned nats rt) :
    Owned (nats.subscribe subject fn_name rt).1 (nats.subscribe subject fn_name rt).2 := by
  unfold subscribe
  cases hlook : nats.subscriptions.lookup subject with
  | none =>
    intro i task htask hlive
    dsimp only at htask ⊢
    rcases getElem?_spawn htask with hi | hold
    · exact ⟨subject, _, AList.lookup_insert _, hi.symm⟩
    · obtain ⟨s, sub, hsub, hhandler⟩ := h i task hold hlive
      have hne : s ≠ subject := by
        rintro rfl
        rw [hlook] at hsub
        exact absurd hsub (by simp)
      exact ⟨s, sub, by rw [AList.lookup_insert_ne hne]; exact hsub, hhandler⟩
  | some old => exact owned_insert h hlook

/-- Erasing a subject and aborting its handler keeps the tasks owned. -/
theorem owned_erase {old : NatsSubscription} (h : Owned nats rt)
    (hlook : nats.subscriptions.lookup subject = some old) :
    Owned { nats with subscriptions := nats.subscriptions.erase subject }
      (rt.abort old.handler) := by
  intro i task htask hlive
  obtain ⟨hne, hold⟩ := getElem?_abort htask hlive
  obtain ⟨s, sub, hsub, hhandler⟩ := h i task hold hlive
  have hs : s ≠ subject := by
    rintro rfl
    obtain rfl : old = sub := Option.some.inj (hlook.symm.trans hsub)
    exact hne hhandler.symm
  exact ⟨s, sub, by rw [AList.lookup_erase_ne hs]; exact hsub, hhandler⟩

/-- `unsubscribe` keeps the tasks owned. -/
theorem owned_unsubscribe (h : Owned nats rt) :
    Owned (nats.unsubscribe subject fn_name rt).1 (nats.unsubscribe subject fn_name rt).2 := by
  unfold unsubscribe
  cases hlook : nats.subscriptions.lookup subject with
  | none => exact h
  | some old =>
    dsimp only
    split_ifs
    · exact owned_erase h hlook
    · exact owned_insert h hlook

/-- `unsubscribe_subject` keeps the tasks owned. -/
theorem owned_unsubscribeSubject (h : Owned nats rt) :
    Owned (nats.unsubscribeSubject subject rt).1 (nats.unsubscribeSubject subject rt).2 := by
  unfold unsubscribeSubject
  cases hlook : nats.subscriptions.lookup subject with
  | none => exact h
  | some old => exact owned_erase h hlook

/-- `run_callbacks` keeps the tasks owned. -/
theorem owned_runCallbacks {σ : Type} {data : List UInt8} {db : σ}
    {callback : σ → String → List UInt8 → σ × Except CallError Unit}
    (h : Owned nats rt) : Owned (nats.runCallbacks subject data callback db).1 rt := by
  unfold runCallbacks
  cases hlook : nats.subscriptions.lookup subject with
  | none => exact h
  | some old => exact owned_insert h hlook

/-- `unsubscribe_all` leaves only aborted tasks. -/
theorem aborted_of_unsubscribeAll (h : Owned nats rt) {i : ℕ} {task : Task}
    (htask : (nats.unsubscribeAll rt).2.2.tasks[i]? = some task) : task.aborted = true := by
  by_contra hlive
  rw [Bool.not_eq_true] at hlive
  obtain ⟨hne, hold⟩ := getElem?_abortAll htask hlive
  obtain ⟨s, sub, hsub, hhandler⟩ := h i task hold hlive
  exact hne sub (HashMap.mem_values_iff.mpr ⟨s, hsub⟩) hhandler

/-- The loop of `reconnect_nats` spawns no task but the new handlers of the entries. -/
theorem getElem?_respawn {client : Client}
    {entries : List (Sigma fun _ : String => NatsSubscription)} {i : ℕ} {task : Task}
    (h : (HashMap.mapAccumEntries (respawn client) rt entries).1.tasks[i]? = some task) :
    (∃ s sub, ⟨s, sub⟩ ∈ (HashMap.mapAccumEntries (respawn client) rt entries).2 ∧
      sub.handler = i) ∨ rt.tasks[i]? = some task := by
  induction entries generalizing rt with
  | nil => exact Or.inr h
  | cons e entries ih =>
    obtain ⟨k, v⟩ := e
    unfold HashMap.mapAccumEntries at h ⊢
    dsimp only at h ⊢
    rcases ih h with ⟨s, sub, hmem, hhandler⟩ | hold
    · exact Or.inl ⟨s, sub, List.mem_cons_of_mem _ hmem, hhandler⟩
    · rcases getElem?_spawn hold with hi | hold
      · exact Or.inl ⟨k, _, List.mem_cons_self, hi.symm⟩
      · exact Or.inr hold

/-- `reconnect_nats` keeps the tasks owned. -/
theorem owned_reconnectNats {opts : NatsConnectionOptions} {connected : Bool}
    (h : Owned nats rt) : Owned (nats.reconnectNats opts rt connected).1
      (nats.reconnectNats opts rt connected).2.1 := by
  unfold reconnectNats
  split_ifs with hconn
  · intro i task htask hlive
    -- A task is a new handler, or an old one, and those are all aborted by now.
    rcases getElem?_respawn htask with ⟨s, sub, hmem, hhandler⟩ | hold
    · exact ⟨s, sub, AList.mem_lookup_iff.mpr hmem, hhandler⟩
    · have hconnect : Owned nats (rt.connect opts).1 := h
      rw [aborted_of_unsubscribeAll hconnect hold] at hlive
      exact absurd hlive (by simp)
  · exact h

/-- Without subscribed subjects, every task is aborted. -/
theorem Owned.aborted (h : Owned nats rt) (hempty : nats.subscriptions = ∅) {task : Task}
    (htask : task ∈ rt.tasks) : task.aborted = true := by
  by_contra hlive
  rw [Bool.not_eq_true] at hlive
  obtain ⟨i, hi⟩ := List.mem_iff_getElem?.mp htask
  obtain ⟨s, sub, hsub, -⟩ := h i task hi hlive
  rw [hempty, AList.lookup_empty] at hsub
  exact absurd hsub (by simp)

end Owned

/-! ## What the operations leave alone -/

section Frame

variable {nats : NatsConnectionState} {rt : Runtime} {subject fn_name : String}

/-- Aborting tasks opens no client and publishes nothing. -/
theorem foldl_abort_frame (subs : List NatsSubscription) (rt : Runtime) :
    (subs.foldl (fun rt sub => rt.abort sub.handler) rt).connections = rt.connections ∧
      (subs.foldl (fun rt sub => rt.abort sub.handler) rt).published = rt.published := by
  induction subs generalizing rt with
  | nil => exact ⟨rfl, rfl⟩
  | cons sub subs ih => exact ih (rt.abort sub.handler)

/-- `subscribe` keeps the client, opens none, and publishes nothing. -/
theorem subscribe_frame : (nats.subscribe subject fn_name rt).1.client = nats.client ∧
    (nats.subscribe subject fn_name rt).2.connections = rt.connections ∧
      (nats.subscribe subject fn_name rt).2.published = rt.published := by
  unfold subscribe
  cases nats.subscriptions.lookup subject with
  | none => exact ⟨rfl, rfl, rfl⟩
  | some sub => exact ⟨rfl, rfl, rfl⟩

/-- `unsubscribe` keeps the client, opens none, and publishes nothing. -/
theorem unsubscribe_frame : (nats.unsubscribe subject fn_name rt).1.client = nats.client ∧
    (nats.unsubscribe subject fn_name rt).2.connections = rt.connections ∧
      (nats.unsubscribe subject fn_name rt).2.published = rt.published := by
  unfold unsubscribe
  cases nats.subscriptions.lookup subject with
  | none => exact ⟨rfl, rfl, rfl⟩
  | some sub =>
    dsimp only
    split_ifs
    · exact ⟨rfl, rfl, rfl⟩
    · exact ⟨rfl, rfl, rfl⟩

/-- `unsubscribe_subject` keeps the client, opens none, and publishes nothing. -/
theorem unsubscribeSubject_frame : (nats.unsubscribeSubject subject rt).1.client = nats.client ∧
    (nats.unsubscribeSubject subject rt).2.connections = rt.connections ∧
      (nats.unsubscribeSubject subject rt).2.published = rt.published := by
  unfold unsubscribeSubject
  cases nats.subscriptions.lookup subject with
  | none => exact ⟨rfl, rfl, rfl⟩
  | some sub => exact ⟨rfl, rfl, rfl⟩

/-- `run_callbacks` keeps the client. -/
theorem runCallbacks_client {σ : Type} {data : List UInt8} {db : σ}
    {callback : σ → String → List UInt8 → σ × Except CallError Unit} :
    (nats.runCallbacks subject data callback db).1.client = nats.client := by
  unfold runCallbacks
  cases nats.subscriptions.lookup subject with
  | none => rfl
  | some sub => rfl

/-- `reconnect_nats` opens one client and publishes nothing. -/
theorem reconnectNats_frame {opts : NatsConnectionOptions} :
    (nats.reconnectNats opts rt true).2.1.connections = rt.connections + 1 ∧
      (nats.reconnectNats opts rt true).2.1.published = rt.published := by
  unfold reconnectNats unsubscribeAll Runtime.connect
  rw [if_pos rfl]
  obtain ⟨hconnections, hpublished⟩ :=
    foldl_abort_frame nats.subscriptions.values { rt with connections := rt.connections + 1 }
  refine HashMap.mapAccum_state (fun rt' : Runtime =>
    rt'.connections = rt.connections + 1 ∧ rt'.published = rt.published) ?_ ?_ _
  · exact fun _ _ _ h => h
  · exact ⟨hconnections, hpublished⟩

end Frame

end NatsConnectionState

end PgNats
