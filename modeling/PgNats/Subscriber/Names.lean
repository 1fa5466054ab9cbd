import PgNats.Lib.SqlNames
import PgNats.Messages
import PgNats.Subscriber.Callbacks

/-!
# The name of a subscribed function

The model of `resolve_bytea_name` in `src/utils.rs`, of `nats_subscribe` in `src/api/nats.rs`, and
of the text that `call_function` sends to Postgres. A function is subscribed by its oid and is
called by its name, as `schema.name` without quotes. A name that is not in UTF-8 has a replacement
character in its text, which the check of `call_function` rejects like every other one that is not
ASCII.

`subscribed_is_called_iff` says for which functions the text that is called is read as the function
that was subscribed. `another_function_called` is one for which it is read as another function.
-/

namespace PgNats

open Sql

/-- `BYTEAOID`. -/
def BYTEAOID : Oid := 17

/-- What the catalog says about the oid of a function. -/
structure FuncInfo where
  /-- `get_namespace_name` of its schema. -/
  namespace_name : Option String
  /-- `get_func_name`. -/
  func_name : Option String
  /-- `get_func_arg_info`, if the function is in the cache. -/
  argtypes : Option (List Oid)

/-- `resolve_bytea_name`. The array of the types is there when a function has an argument, so the
check of its pointer is left out. -/
def resolveByteaName (info : FuncInfo) : Except String (Option String) :=
  match info.func_name, info.argtypes with
  | some fn_name, some argtypes =>
    if argtypes.length ≠ 1 then .error "Argument count must be 1"
    else if argtypes.head? ≠ some BYTEAOID then .error "Argument type must be bytea"
    else match info.namespace_name with
      | some schema_name => .ok (some (schema_name ++ "." ++ fn_name))
      | none => .ok (some fn_name)
  | _, _ => .ok none

/-- `nats_subscribe`: the message for the launcher. -/
def natsSubscribe (recovery : Bool) (db_oid : Oid) (subject : String) (info : FuncInfo) :
    Except String LauncherMessage :=
  if recovery then .error "Subscriptions are not allowed in replica mode"
  else match resolveByteaName info with
    | .ok (some fn_name) => .ok (.subscribe db_oid subject fn_name)
    | .ok none => .error "Failed to get function name"
    | .error err => .error err

/-- The statement of `call_function`. -/
def callSql (callback : String) : Except CallError String :=
  if callable callback then .ok ("SELECT " ++ callback ++ "($1)")
  else .error (.other "Invalid callback function name")

/-! ## What the statement calls -/

/-- A function of the database. -/
structure Function where
  /-- Its schema. -/
  schema : Name
  /-- Its name. -/
  name : Name
  /-- The types of its arguments. -/
  argtypes : List Oid
  deriving DecidableEq

/-- What the catalog says about a function that is there. -/
def Function.info (f : Function) : FuncInfo where
  namespace_name := some f.schema.text
  func_name := some f.name.text
  argtypes := some f.argtypes

/-- The row text of a function: its schema and its name, as they are. -/
def Function.callback (f : Function) : String := f.schema.text ++ "." ++ f.name.text

/-- The function that a statement of this form calls: its schema and its name. -/
def readCall (keyword : String → Option KeywordCategory) (database sql : String) :
    Option (Option String × String) :=
  let name := (sql.toList.drop "SELECT ".length).takeWhile (· ≠ '(')
  if sql.toList = "SELECT ".toList ++ name ++ "($1)".toList then
    readFunction keyword database name
  else none

/-- The callback passes the check of `call_function`, and its statement calls this function. -/
def Calls (keyword : String → Option KeywordCategory) (database callback : String) (f : Function) :
    Prop :=
  ∃ sql, callSql callback = .ok sql ∧
    readCall keyword database sql = some (some f.schema.text, f.name.text)

variable {keyword : String → Option KeywordCategory} {database callback : String} {f : Function}

/-- `nats_subscribe` accepts the functions with one `bytea` argument, and sends their row text. -/
theorem natsSubscribe_eq_ok_iff {db_oid : Oid} {subject : String} :
    natsSubscribe false db_oid subject f.info = .ok (.subscribe db_oid subject callback) ↔
      f.argtypes = [BYTEAOID] ∧ callback = f.callback := by
  unfold natsSubscribe resolveByteaName Function.info Function.callback
  dsimp only
  rw [if_neg (by simp)]
  split_ifs with hcount htype
  · refine iff_of_false (by simp) ?_
    rintro ⟨heq, -⟩
    exact hcount (by rw [heq]; rfl)
  · refine iff_of_false (by simp) ?_
    rintro ⟨heq, -⟩
    exact htype (by rw [heq]; rfl)
  · have hargtypes : f.argtypes = [BYTEAOID] := by
      obtain ⟨argtype, heq⟩ := List.length_eq_one_iff.mp (not_not.mp hcount)
      rw [heq] at htype ⊢
      rw [Option.some.inj (not_not.mp htype)]
    constructor
    · intro h
      injection h with h
      injection h with _ _ h
      exact ⟨hargtypes, h.symm⟩
    · rintro ⟨-, rfl⟩
      rfl

/-- The characters of a name that passes the check. -/
theorem callable_iff : callable callback = true ↔
    ∀ c ∈ callback.toList, (c.isAlphanum || c == '_' || c == '.') = true := by
  unfold callable
  exact List.all_eq_true

/-- The statement for a name that passes the check calls the function that the name is read as. -/
theorem readCall_callSql (h : callable callback = true) :
    readCall keyword database ("SELECT " ++ callback ++ "($1)") =
      readFunction keyword database callback.toList := by
  have hparen : ∀ c ∈ callback.toList, decide (c ≠ '(') = true := by
    intro c hc
    rw [decide_eq_true_iff]
    rintro rfl
    exact absurd (callable_iff.mp h '(' hc) (by decide)
  have htext : ("SELECT " ++ callback ++ "($1)").toList =
      "SELECT ".toList ++ callback.toList ++ "($1)".toList := by
    rw [String.toList_append, String.toList_append]
  have hdrop : ("SELECT ".toList ++ callback.toList ++ "($1)".toList).drop "SELECT ".length =
      callback.toList ++ "($1)".toList := by
    rw [List.append_assoc]
    rfl
  have htake : (callback.toList ++ "($1)".toList).takeWhile (· ≠ '(') = callback.toList := by
    rw [List.takeWhile_append_of_pos hparen]
    show callback.toList ++ [] = callback.toList
    rw [List.append_nil]
  unfold readCall
  rw [htext, hdrop, htake, if_pos rfl]

/-- A character that passes the check is in ASCII, and is no dollar sign. -/
theorem ascii_of_callable {c : Char} (h : (c.isAlphanum || c == '_' || c == '.') = true) :
    c.toNat < 128 ∧ c ≠ '$' := by
  have hlt : c.toNat < 128 := by
    unfold Char.isAlphanum Char.isAlpha at h
    rw [Bool.or_eq_true, Bool.or_eq_true, Bool.or_eq_true, Bool.or_eq_true, isUpper_iff,
      isLower_iff, isDigit_iff, beq_iff_eq, beq_iff_eq] at h
    rcases h with (((h | h) | h) | rfl) | rfl
    · omega
    · omega
    · omega
    · decide
    · decide
  refine ⟨hlt, ?_⟩
  rintro rfl
  exact absurd h (by decide)

/-- The row text passes the check when both names are plain. -/
theorem callable_of_plain (hschema : isPlain f.schema.text.toList = true)
    (hname : isPlain f.name.text.toList = true) : callable f.callback = true := by
  have hchar : ∀ {c : Char}, (c.isLower || c.isDigit || c == '_') = true →
      (c.isAlphanum || c == '_' || c == '.') = true := by
    intro c h
    unfold Char.isAlphanum Char.isAlpha
    rw [Bool.or_eq_true, Bool.or_eq_true] at h
    rcases h with (h | h) | h <;> simp [h]
  have hall : ∀ {cs : List Char}, isPlain cs = true →
      ∀ c ∈ cs, (c.isAlphanum || c == '_' || c == '.') = true := by
    intro cs h c hc
    exact hchar (List.all_eq_true.mp (Bool.and_eq_true _ _ ▸ h).2 c hc)
  refine callable_iff.mpr fun c hc => ?_
  unfold Function.callback at hc
  rw [String.toList_append, String.toList_append, List.mem_append, List.mem_append] at hc
  rcases hc with (hc | hc) | hc
  · exact hall hschema c hc
  · rw [List.mem_singleton.mp hc]
    rfl
  · exact hall hname c hc

/-- The row text is its names with a dot between them. -/
theorem callback_toList (f : Function) :
    f.callback.toList = f.schema.text.toList ++ '.' :: f.name.text.toList := by
  unfold Function.callback
  rw [String.toList_append, String.toList_append, List.append_assoc]
  rfl

/-- The text that is called for a subscribed function passes the check and is read as the schema and
the name of this function exactly when both names consist of lower case letters, digits, and `_`,
without a digit at the start, and the name of the schema is no keyword that cannot be one. -/
theorem subscribed_is_called_iff (keyword : String → Option KeywordCategory) (database : String)
    {db_oid : Oid} {subject callback : String} {f : Function}
    (h : natsSubscribe false db_oid subject f.info = .ok (.subscribe db_oid subject callback)) :
    Calls keyword database callback f ↔
      isPlain f.schema.text.toList = true ∧ isPlain f.name.text.toList = true ∧
        isColId keyword f.schema.text = true := by
  obtain ⟨-, rfl⟩ := natsSubscribe_eq_ok_iff.mp h
  have hread : readFunction keyword database f.callback.toList =
      some (some f.schema.text, f.name.text) ↔
        identifier f.schema.text.toList = some f.schema.text ∧
          identifier f.name.text.toList = some f.name.text ∧
          isColId keyword f.schema.text = true := by
    rw [callback_toList]
    exact read_dotted_iff
  constructor
  · rintro ⟨sql, hsql, hcalls⟩
    unfold callSql at hsql
    split_ifs at hsql with hcallable
    rw [← Except.ok.inj hsql, readCall_callSql hcallable, hread] at hcalls
    obtain ⟨hschema, hname, hcol⟩ := hcalls
    have hascii : ∀ cs : List Char, (∀ c ∈ cs, c ∈ f.callback.toList) →
        ∀ c ∈ cs, c.toNat < 128 ∧ c ≠ '$' := fun cs hcs c hc =>
      ascii_of_callable (callable_iff.mp hcallable c (hcs c hc))
    rw [callback_toList] at hascii
    refine ⟨isPlain_of_identifier ?_ (hascii _ ?_), isPlain_of_identifier ?_ (hascii _ ?_), hcol⟩
    · rw [String.ofList_toList]
      exact hschema
    · exact fun c hc => List.mem_append_left _ hc
    · rw [String.ofList_toList]
      exact hname
    · exact fun c hc => List.mem_append_right _ (List.mem_cons_of_mem _ hc)
  · rintro ⟨hschema, hname, hcol⟩
    have hcallable := callable_of_plain hschema hname
    have hidentifier : ∀ name : Name, isPlain name.text.toList = true →
        identifier name.text.toList = some name.text := by
      intro name hplain
      rw [identifier_of_plain hplain name.short, String.ofList_toList]
    refine ⟨"SELECT " ++ f.callback ++ "($1)", ?_, ?_⟩
    · unfold callSql
      rw [if_pos hcallable]
    · rw [readCall_callSql hcallable, hread]
      exact ⟨hidentifier _ hschema, hidentifier _ hname, hcol⟩

/-- The functions of a catalog, by the texts that call them. -/
def Functions.ofCatalog (keyword : String → Option KeywordCategory) (database : String)
    (catalog : Option String × String → Option (List UInt8 → Completion)) : Functions :=
  fun callback => (readFunction keyword database callback.toList).bind catalog

/-- A statement that calls the function finds what the catalog has under its schema and name. -/
theorem ofCatalog_of_calls {catalog : Option String × String → Option (List UInt8 → Completion)}
    (h : Calls keyword database callback f) :
    Functions.ofCatalog keyword database catalog callback =
      catalog (some f.schema.text, f.name.text) := by
  obtain ⟨sql, hsql, hcalls⟩ := h
  unfold callSql at hsql
  split_ifs at hsql with hcallable
  rw [← Except.ok.inj hsql, readCall_callSql hcallable] at hcalls
  unfold Functions.ofCatalog
  rw [hcalls]
  rfl

/-- A handler in the schema `app`. -/
def onOrder : Function where
  schema := ⟨"app", by decide, by decide, by decide⟩
  name := ⟨"on_order", by decide, by decide, by decide⟩
  argtypes := [BYTEAOID]

/-- The handler is called. -/
theorem onOrder_called : Calls (fun _ => none) "db" "app.on_order" onOrder :=
  (subscribed_is_called_iff (fun _ => none) "db"
    (natsSubscribe_eq_ok_iff.mpr ⟨rfl, rfl⟩ :
      natsSubscribe false 5 "orders" onOrder.info = .ok (.subscribe 5 "orders" "app.on_order"))).mpr
    ⟨by decide, by decide, by decide⟩

/-- A handler with upper case letters in its names. -/
def OnOrder : Function where
  schema := ⟨"App", by decide, by decide, by decide⟩
  name := ⟨"OnOrder", by decide, by decide, by decide⟩
  argtypes := [BYTEAOID]

/-- The handler is accepted, its text passes the check, and the statement calls `app.onorder`. -/
theorem another_function_called :
    natsSubscribe false 5 "orders" OnOrder.info = .ok (.subscribe 5 "orders" "App.OnOrder") ∧
      callSql "App.OnOrder" = .ok "SELECT App.OnOrder($1)" ∧
      readCall (fun _ => none) "db" "SELECT App.OnOrder($1)" = some (some "app", "onorder") ∧
      ¬ Calls (fun _ => none) "db" "App.OnOrder" OnOrder := by
  have haccepted : natsSubscribe false 5 "orders" OnOrder.info =
      .ok (.subscribe 5 "orders" "App.OnOrder") := natsSubscribe_eq_ok_iff.mpr ⟨rfl, rfl⟩
  refine ⟨haccepted, rfl, by decide, ?_⟩
  rintro ⟨sql, hsql, hcalls⟩
  rw [← Except.ok.inj hsql] at hcalls
  exact absurd hcalls (by decide)

end PgNats
