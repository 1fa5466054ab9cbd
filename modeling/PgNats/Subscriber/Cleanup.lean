import PgNats.Subscriber.Names

/-!
# The subscriptions of dropped functions

The model of the event trigger `pgnats.cleanup_subscriptions_on_drop` in `src/bgw/mod.rs`. After a
`DROP FUNCTION` it goes through the dropped objects, and for each function it deletes the rows whose
callback is the function's identity up to the first parenthesis. The identity is the schema and the
name, each in quotes if it needs them, and the types of the arguments in parentheses. The row text
is the schema and the name as they are.

`removes_exactly_iff` says when the trigger deletes exactly the rows of the dropped functions, and
`removes_exactly_iff_of_no_quote` says it more simply for names without a double quote: the dropped
functions with a subscription need no quotes, and no function is dropped that has the names of
another one with a subscription.
-/

namespace PgNats

open Sql

/-- A row of `pg_event_trigger_dropped_objects()`. -/
structure DroppedObject where
  /-- The kind of the object. -/
  object_type : String
  /-- Its identity as a text. -/
  object_identity : String
  deriving DecidableEq, Repr

/-- `pgnats.cleanup_subscriptions_on_drop`. -/
def cleanupSubscriptionsOnDrop (db : Database) (objs : List DroppedObject) : Database :=
  objs.foldl (fun db obj =>
    if obj.object_type = "function" then
      let clean_name := splitPart obj.object_identity '('
      { db with subscriptions := db.subscriptions.filter fun row => row.2 ≠ clean_name }
    else db) db

/-- The identity of a function, where `format_type` gives the names of types. -/
def Function.identity (keyword : String → Option KeywordCategory) (format_type : Oid → String)
    (f : Function) : String :=
  quoteQualified keyword f.schema.text f.name.text ++ "(" ++
    (String.intercalate "," (f.argtypes.map format_type) ++ ")")

/-- An object that a statement drops. -/
inductive Dropped where
  /-- A function. -/
  | function (f : Function)
  /-- An object of another kind, which depends on one of them. -/
  | other (obj : DroppedObject) (hother : obj.object_type ≠ "function")
  deriving DecidableEq

/-- The row about a dropped object. -/
def Dropped.object (keyword : String → Option KeywordCategory) (format_type : Oid → String) :
    Dropped → DroppedObject
  | .function f => ⟨"function", f.identity keyword format_type⟩
  | .other obj _ => obj

/-- A `DROP FUNCTION` statement. -/
structure DropFunction where
  /-- The functions that are there before. -/
  functions : List Function
  /-- What is dropped. -/
  dropped : List Dropped
  /-- A function that is dropped was there. -/
  there : ∀ f, .function f ∈ dropped → f ∈ functions

/-- A subscription that `nats_subscribe` has accepted. -/
structure Subscription where
  /-- The subject. -/
  subject : String
  /-- The function. -/
  function : Function
  /-- The function has one `bytea` argument. -/
  accepted : function.argtypes = [BYTEAOID]

/-- The row of a subscription. -/
def Subscription.row (sub : Subscription) : String × String := (sub.subject, sub.function.callback)

/-- The database with these subscriptions. -/
def subscribed (subs : List Subscription) : Database :=
  subs.foldl (fun db sub => (insertSubjectCallback db sub.subject sub.function.callback).1) ⟨[], []⟩

/-- The statement leaves no row for a dropped function that was subscribed, and it leaves every row
whose function is still there. -/
def RemovesExactly (keyword : String → Option KeywordCategory) (format_type : Oid → String)
    (subs : List Subscription) (stmt : DropFunction) : Prop :=
  let db := cleanupSubscriptionsOnDrop (subscribed subs)
    (stmt.dropped.map (Dropped.object keyword format_type))
  ∀ sub ∈ subs, (.function sub.function ∈ stmt.dropped → sub.row ∉ db.subscriptions) ∧
    (sub.function ∈ stmt.functions → .function sub.function ∉ stmt.dropped →
      sub.row ∈ db.subscriptions)

/-- Neither name of the function needs quotes. -/
def Function.isSafe (keyword : String → Option KeywordCategory) (f : Function) : Bool :=
  Sql.isSafe keyword f.schema.text && Sql.isSafe keyword f.name.text

/-- The two functions have one schema and one name, which need no quotes. -/
def SameName (keyword : String → Option KeywordCategory) (g f : Function) : Prop :=
  g.isSafe keyword = true ∧ g.schema.text = f.schema.text ∧ g.name.text = f.name.text

/-- The first function has a name that needs quotes, and its quoted names, up to the first
parenthesis, spell the names of the second function as they are. -/
def Spells (keyword : String → Option KeywordCategory) (g f : Function) : Prop :=
  g.isSafe keyword = false ∧
    splitPart (quoteQualified keyword g.schema.text g.name.text) '(' = f.callback

variable {keyword : String → Option KeywordCategory} {format_type : Oid → String}

/-- The rows of some subscriptions. -/
theorem mem_subscribed {subs : List Subscription} {row : String × String} :
    row ∈ (subscribed subs).subscriptions ↔ ∃ sub ∈ subs, row = sub.row := by
  have hfold : ∀ db : Database, row ∈ (subs.foldl (fun db sub =>
      (insertSubjectCallback db sub.subject sub.function.callback).1) db).subscriptions ↔
        (∃ sub ∈ subs, row = sub.row) ∨ row ∈ db.subscriptions := by
    induction subs with
    | nil => simp
    | cons sub subs ih =>
      intro db
      rw [List.foldl_cons, ih, mem_insertSubjectCallback, List.exists_mem_cons_iff, or_assoc,
        or_left_comm]
      rfl
  unfold subscribed
  rw [hfold]
  simp

/-- A row stays exactly when no dropped function has its text. -/
theorem mem_cleanup {db : Database} {dropped : List Dropped} {row : String × String} :
    row ∈ (cleanupSubscriptionsOnDrop db
        (dropped.map (Dropped.object keyword format_type))).subscriptions ↔
      row ∈ db.subscriptions ∧ ∀ g, .function g ∈ dropped →
        splitPart (g.identity keyword format_type) '(' ≠ row.2 := by
  unfold cleanupSubscriptionsOnDrop
  induction dropped generalizing db with
  | nil => simp
  | cons obj dropped ih =>
    rw [List.map_cons, List.foldl_cons, ih]
    cases obj with
    | function f =>
      show row ∈ db.subscriptions.filter _ ∧ _ ↔ _
      rw [List.mem_filter, decide_eq_true_iff]
      constructor
      · rintro ⟨⟨hrow, hne⟩, hall⟩
        refine ⟨hrow, fun g hg => ?_⟩
        rcases List.mem_cons.mp hg with hg | hg
        · rw [Dropped.function.inj hg]
          exact hne.symm
        · exact hall g hg
      · rintro ⟨hrow, hall⟩
        refine ⟨⟨hrow, (hall f List.mem_cons_self).symm⟩, fun g hg => ?_⟩
        exact hall g (List.mem_cons_of_mem _ hg)
    | other obj hother =>
      have hsame : ∀ g, Dropped.function g ∈ Dropped.other obj hother :: dropped ↔
          Dropped.function g ∈ dropped := by
        intro g
        rw [List.mem_cons]
        exact or_iff_right (by simp)
      show row ∈ (if obj.object_type = "function" then _ else db).subscriptions ∧ _ ↔ _
      rw [if_neg hother]
      simp only [hsame]

/-- The text that the trigger makes of a function is the row text of another one when they have one
schema and one name without quotes, or the quoted names of the first spell those of the second. -/
theorem splitPart_identity_iff {g f : Function} :
    splitPart (g.identity keyword format_type) '(' = f.callback ↔
      SameName keyword g f ∨ Spells keyword g f := by
  unfold Function.identity
  rw [splitPart_append]
  cases hsafe : g.isSafe keyword with
  | false =>
    constructor
    · exact fun h => Or.inr ⟨hsafe, h⟩
    · rintro (⟨hsame, -⟩ | ⟨-, h⟩)
      · exact absurd (hsafe.symm.trans hsame) (by simp)
      · exact h
  | true =>
    obtain ⟨hschema, hname⟩ := Bool.and_eq_true _ _ ▸ hsafe
    rw [splitPart_quoteQualified hschema hname]
    have hdot : ∀ {name : String}, Sql.isSafe keyword name = true → '.' ∉ name.toList :=
      fun h hmem => absurd (mem_of_safe h hmem) (by decide)
    constructor
    · intro h
      have htext : f.schema.text.toList ++ '.' :: f.name.text.toList =
          g.schema.text.toList ++ '.' :: g.name.text.toList := by
        rw [← callback_toList, ← callback_toList, ← h]
        rfl
      obtain ⟨hs, hn⟩ := dotted_inj htext (hdot hschema) (hdot hname)
      exact Or.inl ⟨hsafe, String.toList_injective hs.symm, String.toList_injective hn.symm⟩
    · rintro (⟨-, hs, hn⟩ | ⟨hquotes, -⟩)
      · unfold Function.callback
        rw [hs, hn]
      · exact absurd (hquotes.symm.trans hsafe) (by simp)

/-- Only the names of a function with a double quote in them are spelled in quotes. -/
theorem quote_mem_of_spells {g f : Function} (h : Spells keyword g f) :
    '"' ∈ f.schema.text.toList ∨ '"' ∈ f.name.text.toList := by
  obtain ⟨hquotes, htext⟩ := h
  have hquote : '"' ∈ f.callback.toList := by
    rw [← htext]
    refine quote_mem_splitPart fun hschema => ?_
    unfold Function.isSafe at hquotes
    rwa [hschema, Bool.true_and] at hquotes
  rw [callback_toList] at hquote
  rcases List.mem_append.mp hquote with hquote | hquote
  · exact Or.inl hquote
  · rcases List.mem_cons.mp hquote with hquote | hquote
    · exact absurd hquote (by decide)
    · exact Or.inr hquote

/-- The row of a subscription is deleted exactly when a dropped function has its text. -/
theorem row_notMem_iff (format_type : Oid → String) {subs : List Subscription}
    {dropped : List Dropped} {sub : Subscription} (hsub : sub ∈ subs) :
    sub.row ∉ (cleanupSubscriptionsOnDrop (subscribed subs)
        (dropped.map (Dropped.object keyword format_type))).subscriptions ↔
      ∃ g, .function g ∈ dropped ∧ (SameName keyword g sub.function ∨
        Spells keyword g sub.function) := by
  rw [mem_cleanup]
  have hrow : sub.row ∈ (subscribed subs).subscriptions := mem_subscribed.mpr ⟨sub, hsub, rfl⟩
  constructor
  · intro h
    by_contra hnone
    refine h ⟨hrow, fun g hg htext => hnone ⟨g, hg, ?_⟩⟩
    exact splitPart_identity_iff.mp htext
  · rintro ⟨g, hg, hcause⟩ ⟨-, hall⟩
    exact hall g hg (splitPart_identity_iff.mpr hcause)

/-- After a `DROP FUNCTION`, the trigger has deleted exactly the rows of the dropped functions when
every function with a subscription is dropped exactly if the statement drops one that has its schema
and its name, which need no quotes, or one whose quoted names spell its own. -/
theorem removes_exactly_iff (keyword : String → Option KeywordCategory)
    (format_type : Oid → String) (subs : List Subscription) (stmt : DropFunction) :
    RemovesExactly keyword format_type subs stmt ↔
      ∀ sub ∈ subs, sub.function ∈ stmt.functions →
        (.function sub.function ∈ stmt.dropped ↔
          ∃ g, .function g ∈ stmt.dropped ∧
            (SameName keyword g sub.function ∨ Spells keyword g sub.function)) := by
  unfold RemovesExactly
  dsimp only
  constructor
  · intro h sub hsub hthere
    rw [← row_notMem_iff format_type hsub]
    obtain ⟨hdropped, hstays⟩ := h sub hsub
    constructor
    · exact hdropped
    · intro hrow
      by_contra hnot
      exact hrow (hstays hthere hnot)
  · intro h sub hsub
    constructor
    · intro hdropped
      exact (row_notMem_iff format_type hsub).mpr ((h sub hsub (stmt.there _ hdropped)).mp hdropped)
    · intro hthere hnot
      by_contra hrow
      exact hnot ((h sub hsub hthere).mpr ((row_notMem_iff format_type hsub).mp hrow))

/-- Where no function with a subscription has a double quote in its names, the trigger deletes
exactly the rows of the dropped functions when those of them that have a subscription need no
quotes, and no function is dropped that has the names, which need no quotes, of one with a
subscription that stays. -/
theorem removes_exactly_iff_of_no_quote {subs : List Subscription} {stmt : DropFunction}
    (hquote : ∀ sub ∈ subs,
      '"' ∉ sub.function.schema.text.toList ∧ '"' ∉ sub.function.name.text.toList) :
    RemovesExactly keyword format_type subs stmt ↔
      ∀ sub ∈ subs, sub.function ∈ stmt.functions →
        (.function sub.function ∈ stmt.dropped → sub.function.isSafe keyword = true) ∧
        ∀ g, .function g ∈ stmt.dropped → SameName keyword g sub.function →
          .function sub.function ∈ stmt.dropped := by
  rw [removes_exactly_iff]
  have hnever : ∀ sub ∈ subs, ∀ g, ¬ Spells keyword g sub.function := by
    intro sub hsub g hspells
    obtain ⟨hschema, hname⟩ := hquote sub hsub
    rcases quote_mem_of_spells hspells with h | h
    · exact hschema h
    · exact hname h
  refine forall₂_congr fun sub hsub => forall_congr' fun _ => ?_
  constructor
  · intro h
    constructor
    · intro hdropped
      obtain ⟨g, -, hcause⟩ := h.mp hdropped
      obtain ⟨hsafe, hschema, hname⟩ := hcause.resolve_right (hnever sub hsub g)
      unfold Function.isSafe at hsafe ⊢
      rwa [hschema, hname] at hsafe
    · exact fun g hg hsame => h.mpr ⟨g, hg, Or.inl hsame⟩
  · rintro ⟨hsafe, hothers⟩
    constructor
    · exact fun hdropped => ⟨_, hdropped, Or.inl ⟨hsafe hdropped, rfl, rfl⟩⟩
    · rintro ⟨g, hg, hcause⟩
      exact hothers g hg (hcause.resolve_right (hnever sub hsub g))

/-- The overload of the handler with another type of argument. -/
def onOrderText : Function := { onOrder with argtypes := [25] }

/-- A statement that drops the overload. -/
def dropOverload : DropFunction where
  functions := [onOrder, onOrderText]
  dropped := [.function onOrderText]
  there f hf := by
    rw [Dropped.function.inj (List.mem_singleton.mp hf)]
    exact List.mem_cons_of_mem _ List.mem_cons_self

/-- A statement that drops the handler with upper case letters in its names. -/
def dropOnOrder : DropFunction where
  functions := [OnOrder]
  dropped := [.function OnOrder]
  there f hf := by
    rw [Dropped.function.inj (List.mem_singleton.mp hf)]
    exact List.mem_cons_self

/-- The handler stays and the overload is dropped, which takes the row of the handler away. And the
row of a handler with names that need quotes stays when the handler is dropped. -/
theorem overload_unsubscribed :
    ¬ RemovesExactly (fun _ => none) (fun _ => "text") [⟨"orders", onOrder, rfl⟩] dropOverload ∧
      ¬ RemovesExactly (fun _ => none) (fun _ => "bytea") [⟨"orders", OnOrder, rfl⟩]
        dropOnOrder := by
  constructor
  · intro h
    have hstays := (h _ List.mem_cons_self).2 List.mem_cons_self (by decide)
    refine (row_notMem_iff _ List.mem_cons_self).mpr ?_ hstays
    exact ⟨onOrderText, List.mem_cons_self, Or.inl ⟨by decide, rfl, rfl⟩⟩
  · intro h
    have hgone := (h _ List.mem_cons_self).1 List.mem_cons_self
    obtain ⟨g, hg, hcause⟩ := (row_notMem_iff _ List.mem_cons_self).mp hgone
    obtain rfl := Dropped.function.inj (List.mem_singleton.mp hg)
    rcases hcause with ⟨hsafe, -⟩ | hspells
    · exact absurd hsafe (by decide)
    · rcases quote_mem_of_spells hspells with hquote | hquote <;> exact absurd hquote (by decide)

end PgNats
