import PgNats.Subscriber.Callbacks
import PgNats.Subscriber.Context

/-!
# The writes of a callback

Each callback of a message runs in a transaction of its own. Inside, `call_function` runs the
statement under `PgTryBuilder`, whose `catch_others` turns an SQL error into a value. So the closure
of the transaction returns normally also after an error, and `BackgroundWorker::transaction` commits
whatever value its closure returns: what the function had written before the error is committed.

A database is here the list of its committed writes, each with the callback that made it. What a
function writes and how it ends may depend on all that it sees. `leavesNoTrace_iff` says when a
failed callback leaves no trace and a successful one all of its writes: when no function of the
message fails after having written something.
-/

namespace PgNats

namespace Transaction

variable {ω : Type}

/-- A write, with the callback that made it. -/
structure Write (ω : Type) where
  /-- The callback. -/
  callback : String
  /-- What it wrote. -/
  value : ω
  deriving DecidableEq, Repr

/-- A session in a transaction. -/
structure Session (ω : Type) where
  /-- The writes that are committed. -/
  committed : List (Write ω)
  /-- The writes of the transaction. -/
  pending : List (Write ω)

/-- What a session sees. -/
def Session.visible (session : Session ω) : List (Write ω) := session.committed ++ session.pending

/-- The functions of the catalog, by the names under which a statement finds them. A function sees
the writes before it and its payload, writes, and then returns or raises. -/
abbrev Bodies (ω : Type) := String → Option (List (Write ω) → List UInt8 → List ω × Completion)

/-- The statement `SELECT callback($1)`: what it writes, and how it ends. -/
def Bodies.select (bodies : Bodies ω) (visible : List (Write ω)) (callback : String)
    (data : List UInt8) : List ω × Completion :=
  match bodies callback with
  | some body => body visible data
  | none => ([], .raised ERRCODE_UNDEFINED_FUNCTION "function does not exist")

/-- The statement in a session. -/
def Session.update (session : Session ω) (bodies : Bodies ω) (callback : String)
    (data : List UInt8) : Session ω × Completion :=
  let (values, completion) := bodies.select session.visible callback data
  ({ session with pending := session.pending ++ values.map (Write.mk callback) }, completion)

/-- `PgTryBuilder::catch_others` with the handler of `call_function`: the error becomes a value, and
nothing is rolled back. -/
def catchOthers (result : Session ω × Completion) : Session ω × Except CallError Unit :=
  (result.1, result.2.toResult)

/-- `call_function`. -/
def callFunction (bodies : Bodies ω) (session : Session ω) (callback : String)
    (data : List UInt8) : Session ω × Except CallError Unit :=
  if callable callback then catchOthers (session.update bodies callback data)
  else (session, .error (.other "Invalid callback function name"))

/-- `BackgroundWorker::transaction`: a closure that returns is committed, whatever it returns. -/
def transaction {α : Type} (closure : Session ω → Session ω × α) (db : List (Write ω)) :
    List (Write ω) × α :=
  let (session, value) := closure { committed := db, pending := [] }
  (session.committed ++ session.pending, value)

/-- `handle_internal_message` for `CallbackCall`. -/
def handleCallbackCall (bodies : Bodies ω) (ctx : SubscriberContext) (db : List (Write ω))
    (subject : String) (data : List UInt8) : SubscriberContext × List (Write ω) :=
  ctx.handleCallback db subject data fun db callback data =>
    transaction (fun session => callFunction bodies session callback data) db

/-! ## The calls of a message -/

/-- A call of a function. -/
structure Call (ω : Type) where
  /-- The function. -/
  callback : String
  /-- What it wrote. -/
  values : List ω
  /-- What `call_function` returned. -/
  result : Except CallError Unit

/-- The writes of a call. -/
def Call.writes (call : Call ω) : List (Write ω) := call.values.map (Write.mk call.callback)

/-- The call of a function by name, in a database with these writes. -/
def Bodies.call (bodies : Bodies ω) (data : List UInt8) (db : List (Write ω)) (callback : String) :
    Call ω :=
  if callable callback then
    let (values, completion) := bodies.select db callback data
    { callback, values, result := completion.toResult }
  else { callback, values := [], result := .error (.other "Invalid callback function name") }

/-- The calls of functions in this order, each of which sees the writes before it. -/
def Bodies.calls (bodies : Bodies ω) (data : List UInt8) :
    List (Write ω) → List String → List (Call ω)
  | _, [] => []
  | db, callback :: callbacks =>
    let call := bodies.call data db callback
    call :: bodies.calls data (db ++ call.writes) callbacks

/-- The calls of a message, in the iteration order of the functions of its subject. -/
def messageCalls (bodies : Bodies ω) (ctx : SubscriberContext) (db : List (Write ω))
    (subject : String) (data : List UInt8) : List (Call ω) :=
  match ctx.nats.subscriptions.lookup subject with
  | some s => bodies.calls data db s.funcs.elems
  | none => []

/-- A message adds to the database no write of a function whose call failed, and every write of one
whose call succeeded. -/
def LeavesNoTrace (bodies : Bodies ω) (ctx : SubscriberContext) (db : List (Write ω))
    (subject : String) (data : List UInt8) : Prop :=
  ∃ added, (handleCallbackCall bodies ctx db subject data).2 = db ++ added ∧
    ∀ call ∈ messageCalls bodies ctx db subject data,
      (∀ error, call.result = .error error → ∀ write ∈ added, write.callback ≠ call.callback) ∧
        (call.result = .ok () → ∀ write ∈ call.writes, write ∈ added)

section Calls

variable {bodies : Bodies ω} {data : List UInt8} {db : List (Write ω)} {callback : String}

/-- The transaction of a call commits what the function wrote, also when it failed. -/
theorem transaction_callFunction :
    transaction (fun session => callFunction bodies session callback data) db =
      (db ++ (bodies.call data db callback).writes, (bodies.call data db callback).result) := by
  unfold transaction callFunction Bodies.call
  split_ifs
  · unfold catchOthers Session.update Session.visible Call.writes
    simp
  · unfold Call.writes
    simp

/-- Its result is that of `call_function` for a statement that ends in this way. -/
theorem transaction_callFunction_snd (d : Database) :
    (transaction (fun session => callFunction bodies session callback data) db).2 =
      (PgNats.callFunction (fun callback => (bodies.select db callback data).2.toResult) d callback
        data).2 := by
  rw [transaction_callFunction]
  unfold Bodies.call PgNats.callFunction
  split_ifs <;> rfl

/-- The calls of functions in an order commit all their writes. -/
theorem foldl_calls (callbacks : List String) (db : List (Write ω)) :
    callbacks.foldl (fun db callback => db ++ (bodies.call data db callback).writes) db =
      db ++ (bodies.calls data db callbacks).flatMap Call.writes := by
  induction callbacks generalizing db with
  | nil => exact (List.append_nil db).symm
  | cons callback callbacks ih =>
    unfold Bodies.calls
    dsimp only
    rw [List.foldl_cons, ih, List.flatMap_cons, List.append_assoc]

/-- A message commits the writes of all its calls. -/
theorem handleCallbackCall_writes (bodies : Bodies ω) (ctx : SubscriberContext)
    (db : List (Write ω)) (subject : String) (data : List UInt8) :
    (handleCallbackCall bodies ctx db subject data).2 =
      db ++ (messageCalls bodies ctx db subject data).flatMap Call.writes := by
  unfold handleCallbackCall SubscriberContext.handleCallback NatsConnectionState.runCallbacks
    messageCalls
  cases ctx.nats.subscriptions.lookup subject with
  | none => exact (List.append_nil db).symm
  | some sub =>
    dsimp only
    -- Whether a function is kept does not matter: its transaction has been committed before.
    rw [HashSet.retain_fst]
    simp only [NatsConnectionState.runCallback_fst, transaction_callFunction]
    exact foldl_calls sub.funcs.elems db

/-- The functions are called in this order. -/
theorem map_callback_calls (callbacks : List String) (db : List (Write ω)) :
    (bodies.calls data db callbacks).map Call.callback = callbacks := by
  induction callbacks generalizing db with
  | nil => rfl
  | cons callback callbacks ih =>
    unfold Bodies.calls
    dsimp only
    rw [List.map_cons, ih]
    congr 1
    unfold Bodies.call
    split_ifs <;> rfl

/-- A message calls each registered function of its subject once. -/
theorem messageCalls_callbacks (bodies : Bodies ω) (ctx : SubscriberContext)
    (db : List (Write ω)) (subject : String) (data : List UInt8) :
    ((messageCalls bodies ctx db subject data).map Call.callback).Nodup ∧
      ∀ f, f ∈ (messageCalls bodies ctx db subject data).map Call.callback ↔
        ctx.nats.Registered subject f := by
  unfold messageCalls
  cases hlook : ctx.nats.subscriptions.lookup subject with
  | none =>
    refine ⟨List.nodup_nil, fun f => iff_of_false List.not_mem_nil ?_⟩
    exact NatsConnectionState.not_registered_of_lookup hlook
  | some sub =>
    dsimp only
    rw [map_callback_calls]
    exact ⟨sub.funcs.nodup, fun f => (NatsConnectionState.registered_of_lookup hlook).symm⟩

end Calls

/-- A message leaves no trace of the functions that failed, and every write of those that did not,
exactly when no function of the message fails after having written something. -/
theorem leavesNoTrace_iff (bodies : Bodies ω) (ctx : SubscriberContext) (db : List (Write ω))
    (subject : String) (data : List UInt8) :
    LeavesNoTrace bodies ctx db subject data ↔
      ∀ call ∈ messageCalls bodies ctx db subject data,
        ∀ error, call.result = .error error → call.values = [] := by
  obtain ⟨hnodup, -⟩ := messageCalls_callbacks bodies ctx db subject data
  have hwrites := handleCallbackCall_writes bodies ctx db subject data
  constructor
  · rintro ⟨added, hadded, hcalls⟩ call hcall error hfailed
    obtain rfl := List.append_cancel_left (hadded.symm.trans hwrites)
    by_contra hvalues
    obtain ⟨value, hvalue⟩ := List.exists_mem_of_ne_nil _ hvalues
    refine (hcalls call hcall).1 error hfailed ⟨call.callback, value⟩ ?_ rfl
    exact List.mem_flatMap.mpr ⟨call, hcall, List.mem_map_of_mem hvalue⟩
  · intro hempty
    refine ⟨_, hwrites, fun call hcall => ⟨?_, ?_⟩⟩
    · rintro error hfailed write hwrite hsame
      obtain ⟨call', hcall', hmem⟩ := List.mem_flatMap.mp hwrite
      obtain ⟨value, hvalue, rfl⟩ := List.mem_map.mp hmem
      -- Each function is called once, so the write is one of the failed call.
      obtain rfl : call' = call := List.inj_on_of_nodup_map hnodup hcall' hcall hsame
      rw [hempty call' hcall' error hfailed] at hvalue
      exact absurd hvalue List.not_mem_nil
    · exact fun _ write hwrite => List.mem_flatMap.mpr ⟨call, hcall, hwrite⟩

/-- A function that writes and then divides by zero leaves its write. -/
theorem failed_write_kept :
    ¬ LeavesNoTrace (fun callback => if callback = "public.on_order" then
        some fun _ _ => (["INSERT INTO orders"], .raised "22012" "division by zero") else none)
      { sender := [], rt := .new, config := validatorConfig [],
        nats := NatsConnectionState.oneFunction, status := .master } [] "orders" [1] := by
  rintro ⟨added, hadded, hcalls⟩
  obtain rfl : added = [⟨"public.on_order", "INSERT INTO orders"⟩] := hadded.symm
  exact (hcalls _ List.mem_cons_self).1 (.other "division by zero") rfl _ List.mem_cons_self rfl

end Transaction

end PgNats
