import PgNats.Config

/-!
# What a subscriber asks Postgres

The model of `src/bgw/subscriber/pg_api.rs` and `src/bgw/notification.rs`: the role of the instance,
the subscriptions table with its unique pairs, the call of a callback function, and the notification
of a role change. `Database` also keeps the callback calls that reached Postgres, so that a theorem
can say that there were none. What a statement or a called function does beyond that is a parameter.
-/

namespace PgNats

/-- `PgInstanceStatus`. -/
inductive PgInstanceStatus where
  /-- Not in recovery. -/
  | master
  /-- In recovery. -/
  | replica
  deriving DecidableEq, Repr

/-- An instance that is no replica is a master. -/
theorem PgInstanceStatus.ne_replica {status : PgInstanceStatus} :
    status ≠ .replica ↔ status = .master := by
  cases status <;> simp

/-- `CallError`. -/
inductive CallError where
  /-- The function does not exist. -/
  | notFound
  /-- Anything else that failed. -/
  | other (error : String)
  deriving DecidableEq, Repr

/-- The part of the database that a subscriber changes. -/
structure Database where
  /-- The rows `(subject, callback)` of the subscriptions table. -/
  subscriptions : List (String × String)
  /-- The callback calls so far, with their payloads. -/
  calls : List (String × List UInt8)
  deriving DecidableEq, Repr

/-- `insert_subject_callback`. The pair is unique in the table. -/
def insertSubjectCallback (db : Database) (subject fn_name : String) :
    Database × Except Unit Unit :=
  if (subject, fn_name) ∈ db.subscriptions then (db, .error ())
  else ({ db with subscriptions := db.subscriptions ++ [(subject, fn_name)] }, .ok ())

/-- `delete_subject_callback`. Deleting no row is not an error. -/
def deleteSubjectCallback (db : Database) (subject callback : String) :
    Database × Except Unit Unit :=
  ({ db with subscriptions := db.subscriptions.filter (· ≠ (subject, callback)) }, .ok ())

/-- `fetch_subject_with_callbacks`, where the statement may fail. -/
def fetchSubjectWithCallbacks (db : Database) (selected : Bool) :
    Except Unit (List (String × String)) :=
  if selected then .ok db.subscriptions else .error ()

/-- The check of `call_function` on the name: letters, digits, `_` and `.` only. -/
def callable (callback : String) : Bool :=
  callback.toList.all fun c => c.isAlphanum || c == '_' || c == '.'

/-- `call_function`, where `outcome` is what the statement `SELECT callback($1)` gives. -/
def callFunction (outcome : String → Except CallError Unit) (db : Database) (callback : String)
    (data : List UInt8) : Database × Except CallError Unit :=
  if callable callback then
    ({ db with calls := db.calls ++ [(callback, data)] }, outcome callback)
  else (db, .error (.other "Invalid callback function name"))

/-- A row is there after an insert exactly when it was or is the inserted one. -/
@[simp] theorem mem_insertSubjectCallback {db : Database} {subject fn_name : String}
    {row : String × String} : row ∈ (insertSubjectCallback db subject fn_name).1.subscriptions ↔
      row = (subject, fn_name) ∨ row ∈ db.subscriptions := by
  unfold insertSubjectCallback
  split_ifs with h
  · constructor
    · exact Or.inr
    · rintro (rfl | hrow)
      · exact h
      · exact hrow
  · dsimp only
    rw [List.mem_append, List.mem_singleton, or_comm]

/-- A row is there after a delete exactly when it was and is not the deleted one. -/
@[simp] theorem mem_deleteSubjectCallback {db : Database} {subject callback : String}
    {row : String × String} : row ∈ (deleteSubjectCallback db subject callback).1.subscriptions ↔
      row ≠ (subject, callback) ∧ row ∈ db.subscriptions := by
  unfold deleteSubjectCallback
  dsimp only
  rw [List.mem_filter, decide_eq_true_iff, and_comm]

/-- A callback call leaves the table as it is. -/
@[simp] theorem callFunction_subscriptions (outcome : String → Except CallError Unit)
    (db : Database) (callback : String) (data : List UInt8) :
    (callFunction outcome db callback data).1.subscriptions = db.subscriptions := by
  unfold callFunction
  split_ifs <;> rfl

/-- `PgInstanceNotification`. -/
structure PgInstanceNotification where
  /-- The role that the instance took. -/
  status : PgInstanceStatus
  /-- The entries of the setting `listen_addresses`. -/
  listen_addresses : List String
  /-- The port of the instance. -/
  port : UInt16
  /-- The Patroni name of the instance, or the error of the request for it. -/
  name : Option String
  deriving DecidableEq, Repr

/-- The characters that `str::trim` removes: those with the Unicode property `White_Space`. -/
def isWhitespace (c : Char) : Bool :=
  let n := c.toNat
  (0x9 ≤ n && n ≤ 0xd) || n == 0x20 || n == 0x85 || n == 0xa0 || n == 0x1680 ||
    (0x2000 ≤ n && n ≤ 0x200a) || n == 0x2028 || n == 0x2029 || n == 0x202f || n == 0x205f ||
    n == 0x3000

/-- `str::trim`. -/
def trim (cs : List Char) : String :=
  String.ofList (((cs.dropWhile isWhitespace).reverse.dropWhile isWhitespace).reverse)

/-- What a notification is built from, beside the role. -/
structure Instance where
  /-- The setting `listen_addresses`. -/
  listen_addresses : Option String
  /-- The setting `port`. -/
  port : Option String
  /-- The name that the Patroni URL gives, or the text of the error. -/
  patroniName : String → String

/-- `PgInstanceNotification::new`. -/
def PgInstanceNotification.new (status : PgInstanceStatus) (patroni_url : Option String)
    (settings : Instance) : Option PgInstanceNotification := do
  let listen_addresses := ((← settings.listen_addresses).toList.splitOn ',').map trim
  let port ← parseUnsigned UInt16.size (← settings.port)
  return { status, listen_addresses, port := UInt16.ofNat port,
           name := patroni_url.map settings.patroniName }

end PgNats
