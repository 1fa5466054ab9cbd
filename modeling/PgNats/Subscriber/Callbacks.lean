import PgNats.Subscriber.Nats

/-!
# Which callbacks are unregistered

`call_function` runs one statement for each registered function, and `run_callbacks` unregisters the
function when the statement ends with the SQL error code `undefined_function`. What the statement
does is a function of the catalog: a name that is not in it gives that code, and the body of a
function that is there returns, or raises an error with any code. A body that calls a missing
function raises the same code, and then the function itself counts as gone.

`unregistered_only_if_gone_iff` says that nothing else goes wrong: a message leaves every existing
function of its subject registered exactly when no such function raises `undefined_function` on it.
-/

namespace PgNats

/-- `ERRCODE_UNDEFINED_FUNCTION`. -/
def ERRCODE_UNDEFINED_FUNCTION : String := "42883"

/-- How a statement ends. -/
inductive Completion where
  /-- It returns. -/
  | returned
  /-- It raises an SQL error, with its code and the text that is logged. -/
  | raised (sql_error_code text : String)
  /-- It ends in a panic or an error of pgrx's own. -/
  | failed (text : String)
  deriving DecidableEq, Repr

/-- What `call_function` makes of the end of its statement. -/
def Completion.toResult : Completion → Except CallError Unit
  | .returned => .ok ()
  | .raised sql_error_code text =>
    if sql_error_code = ERRCODE_UNDEFINED_FUNCTION then .error .notFound else .error (.other text)
  | .failed text => .error (.other text)

/-- The functions of the catalog, by the names under which a statement finds them: a function
exists if the registered text finds it, whatever function it was registered for. A function is what
its body does with a payload. -/
abbrev Functions := String → Option (List UInt8 → Completion)

/-- The statement `SELECT callback($1)`. -/
def Functions.select (functions : Functions) (callback : String) (data : List UInt8) : Completion :=
  match functions callback with
  | some body => body data
  | none => .raised ERRCODE_UNDEFINED_FUNCTION "function does not exist"

/-- `call_function`, in a database with these functions. -/
def Functions.call (functions : Functions) (db : Database) (callback : String)
    (data : List UInt8) : Database × Except CallError Unit :=
  callFunction (fun callback => (functions.select callback data).toResult) db callback data

/-- The function exists and raises `undefined_function` on the payload. -/
def Functions.RaisesUndefined (functions : Functions) (callback : String) (data : List UInt8) :
    Prop :=
  ∃ body ∈ functions callback, ∃ text, body data = .raised ERRCODE_UNDEFINED_FUNCTION text

variable {functions : Functions} {data : List UInt8} {callback : String}

/-- `call_function` takes an error with one code for a missing function. -/
theorem Completion.toResult_eq_notFound {completion : Completion} :
    completion.toResult = .error .notFound ↔
      ∃ text, completion = .raised ERRCODE_UNDEFINED_FUNCTION text := by
  cases completion with
  | returned => simp [toResult]
  | failed text => simp [toResult]
  | raised code text =>
    show (if code = ERRCODE_UNDEFINED_FUNCTION then _ else _) = _ ↔ _
    split_ifs with hcode
    · exact iff_of_true rfl ⟨text, by rw [hcode]⟩
    · refine iff_of_false (by simp) ?_
      rintro ⟨text', heq⟩
      exact hcode (Completion.raised.inj heq).1

/-- The statement ends like a missing function when the function is missing or raises that. -/
theorem Functions.toResult_eq_notFound :
    (functions.select callback data).toResult = .error .notFound ↔
      functions callback = none ∨ functions.RaisesUndefined callback data := by
  rw [Completion.toResult_eq_notFound]
  unfold select RaisesUndefined
  cases functions callback with
  | none => exact iff_of_true ⟨_, rfl⟩ (Or.inl rfl)
  | some body => simp

/-- The functions that a message leaves registered. -/
def Functions.keeps (functions : Functions) (data : List UInt8) (callback : String) : Bool :=
  !(callable callback &&
    decide ((functions.select callback data).toResult = .error .notFound))

/-- The closure of `run_callbacks` drops the functions that are called and not found. -/
theorem runCallback_callFunction (outcome : String → Except CallError Unit) (data : List UInt8)
    (db : Database) (callback : String) :
    (NatsConnectionState.runCallback (callFunction outcome) data db callback).2 =
      !(callable callback && decide (outcome callback = .error .notFound)) := by
  rw [NatsConnectionState.runCallback_snd]
  unfold callFunction
  cases callable callback with
  | false => simp
  | true => simp

/-- The closure of `run_callbacks` decides about each function by itself. -/
theorem runCallback_keeps (db : Database) (callback : String) :
    (NatsConnectionState.runCallback functions.call data db callback).2 =
      functions.keeps data callback :=
  runCallback_callFunction _ data db callback

/-- The calls that functions in this order make. -/
theorem foldl_calls (order : List String) (db : Database) :
    (order.foldl (fun db f => (functions.call db f data).1) db).calls =
      db.calls ++ (order.filter callable).map fun f => (f, data) := by
  induction order generalizing db with
  | nil => rw [List.filter_nil, List.map_nil, List.append_nil]; rfl
  | cons f order ih =>
    rw [List.foldl_cons, ih]
    unfold Functions.call callFunction
    cases hname : callable f with
    | false =>
      have hnot : ¬ callable f = true := by rw [hname]; exact Bool.false_ne_true
      rw [if_neg Bool.false_ne_true, List.filter_cons_of_neg hnot]
    | true =>
      rw [if_pos rfl, List.filter_cons_of_pos hname, List.append_assoc]
      rfl

namespace NatsConnectionState

variable {nats : NatsConnectionState} {subject s f : String} {db : Database}

/-- A function is registered after a message when it was, and the message leaves it. -/
theorem registered_runCallbacks_call :
    Registered (nats.runCallbacks subject data functions.call db).1 s f ↔
      Registered nats s f ∧ (s = subject → functions.keeps data f) :=
  registered_runCallbacks_iff runCallback_keeps

/-- A message changes its own subject only. -/
theorem lookup_runCallbacks_of_ne {callback : Database → String → List UInt8 →
    Database × Except CallError Unit} (hne : s ≠ subject) :
    (nats.runCallbacks subject data callback db).1.subscriptions.lookup s =
      nats.subscriptions.lookup s := by
  unfold runCallbacks
  cases nats.subscriptions.lookup subject with
  | none => rfl
  | some sub => exact AList.lookup_insert_ne hne

/-- Each registered function of the subject is called once, in some order. -/
theorem runCallbacks_calls (functions : Functions) (nats : NatsConnectionState) (subject : String)
    (data : List UInt8) (db : Database) :
    ∃ order : List String, order.Nodup ∧ (∀ f, f ∈ order ↔ Registered nats subject f) ∧
      (nats.runCallbacks subject data functions.call db).2 =
        order.foldl (fun db f => (functions.call db f data).1) db := by
  unfold runCallbacks
  cases hlook : nats.subscriptions.lookup subject with
  | none =>
    refine ⟨[], List.nodup_nil, fun f => ?_, rfl⟩
    exact iff_of_false List.not_mem_nil (not_registered_of_lookup hlook)
  | some sub =>
    refine ⟨sub.funcs.elems, sub.funcs.nodup, fun f => (registered_of_lookup hlook).symm, ?_⟩
    dsimp only
    rw [HashSet.retain_fst]
    simp only [runCallback_fst]

/-- What a message should do to the registered functions: every function of the subject that exists
stays registered, nothing is added, each is called once, and the other subjects are as before. -/
def UnregistersOnlyGone (functions : Functions) (nats : NatsConnectionState) (subject : String)
    (data : List UInt8) (db : Database) : Prop :=
  let (nats', db') := nats.runCallbacks subject data functions.call db
  (∀ f, Registered nats subject f → functions f ≠ none → Registered nats' subject f) ∧
    (∀ s f, Registered nats' s f → Registered nats s f) ∧
    (∃ order : List String, order.Nodup ∧ (∀ f, f ∈ order ↔ Registered nats subject f) ∧
      db' = order.foldl (fun db f => (functions.call db f data).1) db ∧
      db'.calls = db.calls ++ (order.filter callable).map fun f => (f, data)) ∧
    ∀ s, s ≠ subject → nats'.subscriptions.lookup s = nats.subscriptions.lookup s

/-- A message unregisters only functions that do not exist exactly when no registered function of
its subject that can be called raises `undefined_function` on it. -/
theorem unregistered_only_if_gone_iff (functions : Functions) (nats : NatsConnectionState)
    (subject : String) (data : List UInt8) (db : Database) :
    UnregistersOnlyGone functions nats subject data db ↔
      ∀ f, Registered nats subject f → callable f → ¬ functions.RaisesUndefined f data := by
  have hkeeps : ∀ f, functions.keeps data f = true ↔
      (callable f → functions f ≠ none ∧ ¬ functions.RaisesUndefined f data) := by
    intro f
    unfold Functions.keeps
    rw [Bool.not_eq_true', Bool.and_eq_false_imp, decide_eq_false_iff_not,
      Functions.toResult_eq_notFound, not_or]
  constructor
  · rintro ⟨hstays, -⟩ f hf hcallable ⟨body, hbody, hraises⟩
    have hexists : functions f ≠ none := by
      rw [Option.mem_def.mp hbody]
      simp
    have hkept := (registered_runCallbacks_call.mp (hstays f hf hexists)).2 rfl
    exact ((hkeeps f).mp hkept hcallable).2 ⟨body, hbody, hraises⟩
  · intro hcond
    obtain ⟨order, hnodup, hmem, hdb⟩ := runCallbacks_calls functions nats subject data db
    refine ⟨?_, ?_, ⟨order, hnodup, hmem, hdb, hdb ▸ foldl_calls order db⟩, ?_⟩
    · intro f hf hexists
      refine registered_runCallbacks_call.mpr ⟨hf, fun _ => (hkeeps f).mpr ?_⟩
      exact fun hcallable => ⟨hexists, hcond f hf hcallable⟩
    · exact fun s f h => (registered_runCallbacks_call.mp h).1
    · exact fun s hne => lookup_runCallbacks_of_ne hne

/-- A connection with one function on one subject. -/
def oneFunction : NatsConnectionState :=
  let (nats, rt) := new .new (validatorConfig []).nats_opt
  (nats.subscribe "orders" "public.on_order" rt).1

/-- The function exists, and its body calls one that does not. It is unregistered. -/
theorem existing_function_unregistered :
    ¬ UnregistersOnlyGone
      (fun callback => if callback = "public.on_order" then
        some fun _ =>
          .raised ERRCODE_UNDEFINED_FUNCTION "function public.audit(bytea) does not exist"
        else none)
      oneFunction "orders" [1] ⟨[("orders", "public.on_order")], []⟩ := by
  intro h
  have hregistered : Registered oneFunction "orders" "public.on_order" := ⟨_, rfl, by decide⟩
  obtain ⟨sub, hsub, hmem⟩ := h.1 "public.on_order" hregistered (by simp)
  obtain rfl := Option.some.inj hsub
  exact absurd hmem (by decide)

end NatsConnectionState

end PgNats
