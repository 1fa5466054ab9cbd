import PgNats.Lib.ReadCommitted
import PgNats.Lib.Run
import PgNats.Options

/-!
# The servers of the foreign data wrapper

The model of the event trigger `pgnats.enforce_single_pgnats_fdw_server` in `src/bgw/fdw.rs`, which
counts the servers of the wrapper at the end of `CREATE SERVER` and raises an exception when there
is more than one. The count sees what is committed, and what its own transaction has done. It is not
made again at the commit, so a server that another transaction commits in between is not noticed.

`single_server_iff` says when the database never has two servers: when no transaction that commits a
server finds, at its commit, a server of another transaction that its last count could not see.
-/

namespace PgNats

open Run (RunAll)
open ReadCommitted (Row Table Transaction)

/-- `pgnats.enforce_single_pgnats_fdw_server`, on the servers that its query sees. -/
def enforceSinglePgnatsFdwServer (servers : List Server) : Except String Unit :=
  let fdw_count := servers.length
  if fdw_count > 1 then .error "Only one server with FDW pgnats_fdw is allowed." else .ok ()

/-- The servers of the wrapper and the running transactions. -/
abbrev FdwCatalog := Table Server

namespace FdwCatalog

/-- What the transactions do. -/
inductive Event where
  /-- A transaction begins. -/
  | begin (x : ℕ)
  /-- `CREATE SERVER`. -/
  | createServer (x : ℕ) (server : Server)
  /-- `DROP SERVER`. -/
  | dropServer (x : ℕ) (name : String)
  /-- `COMMIT`. -/
  | commit (x : ℕ)
  /-- `ROLLBACK`. -/
  | abort (x : ℕ)
  deriving DecidableEq

/-- No server that the transaction has not dropped, and no server of a running transaction, has the
name. -/
def NameFree (s : FdwCatalog) (t : Transaction Server) (name : String) : Prop :=
  (∀ row ∈ t.remaining s, row.value.name ≠ name) ∧
    ∀ u ∈ s.running.values, ∀ server ∈ u.inserted, server.name ≠ name

instance (s : FdwCatalog) (t : Transaction Server) (name : String) :
    Decidable (NameFree s t name) :=
  inferInstanceAs (Decidable (_ ∧ _))

/-- `CREATE SERVER` in a transaction, with the trigger at its end. An exception ends the
transaction: savepoints, and PL/pgSQL blocks that catch it, are not modelled. -/
def createServer (s : FdwCatalog) (x : ℕ) (t : Transaction Server) (server : Server) : FdwCatalog :=
  let t := (t.insert server).look s
  match enforceSinglePgnatsFdwServer (t.visible s) with
  | .error _ => s.abort x
  | .ok () => s.put x t

/-- `DROP SERVER` in a transaction: a server of its own, or a committed one that no other
transaction is dropping. -/
def dropServer (s : FdwCatalog) (x : ℕ) (t : Transaction Server) (name : String) :
    Option FdwCatalog :=
  if ∃ server ∈ t.inserted, server.name = name then
    some (s.put x { t with inserted := t.inserted.filter fun server => server.name ≠ name })
  else
    match (t.remaining s).find? fun row => row.value.name = name with
    | some row =>
      if ∃ u ∈ s.running.values, row ∈ u.deleted then none else some (s.put x (t.delete row))
    | none => none

/-- One step, if it is possible. A statement that has to wait for another transaction is not. -/
def step (s : FdwCatalog) : Event → Option FdwCatalog
  | .begin x => if (s.running.lookup x).isSome then none else some (s.put x .new)
  | .createServer x server => (s.running.lookup x).bind fun t =>
    if NameFree s t server.name then some (createServer s x t server) else none
  | .dropServer x name => (s.running.lookup x).bind fun t => dropServer s x t name
  | .commit x => (s.running.lookup x).map fun t => s.commit x t
  | .abort x => (s.running.lookup x).map fun _ => s.abort x

/-- At most one server is committed, and then it is the one that `fetch_fdw_server_name` takes. -/
structure Single (s : FdwCatalog) : Prop where
  /-- At most one server is committed. -/
  at_most_one : s.rows.length ≤ 1
  /-- Its name is fetched. -/
  fetched : ∀ row ∈ s.rows,
    fetchFdwServerName (s.rows.map fun row => some row.value.name) = some row.value.name

/-- A transaction that has created a server leaves no other server that was committed after its last
count. -/
def CountedAll (s : FdwCatalog) (t : Transaction Server) : Prop :=
  t.inserted ≠ [] → ∀ row ∈ t.remaining s, row.committed_at < t.looked_at

instance (s : FdwCatalog) (t : Transaction Server) : Decidable (CountedAll s t) :=
  inferInstanceAs (Decidable (_ → _))

/-- The condition on a step: a transaction that commits has counted every server that it leaves. -/
def CommitsCounted (s : FdwCatalog) : Event → Prop
  | .commit x => ∀ t ∈ s.running.lookup x, CountedAll s t
  | _ => True

instance (s : FdwCatalog) : ∀ e, Decidable (CommitsCounted s e)
  | .commit x => inferInstanceAs (Decidable (∀ t ∈ s.running.lookup x, CountedAll s t))
  | .begin _ | .createServer _ _ | .dropServer _ _ | .abort _ => .isTrue trivial

/-- What holds of the catalog while the condition is met: at most one server is committed, and each
transaction that has created a server is alone with it. -/
structure Guarded (s : FdwCatalog) : Prop where
  /-- At most one server is committed. -/
  single : s.rows.length ≤ 1
  /-- No transaction has counted at a later time. -/
  past : s.Past
  /-- A transaction has at most one server of its own. -/
  own : ∀ x t, s.running.lookup x = some t → t.inserted.length ≤ 1
  /-- A transaction with a server of its own has dropped the servers that it counted. -/
  alone : ∀ x t, s.running.lookup x = some t → t.inserted ≠ [] → t.Alone s

section Step

variable {s : FdwCatalog} {x : ℕ} {t : Transaction Server}

/-- The trigger lets a transaction go on exactly when its query sees at most one server. -/
theorem createServer_eq (server : Server) :
    createServer s x t server =
      if (((t.insert server).look s).visible s).length ≤ 1 then s.put x ((t.insert server).look s)
      else s.abort x := by
  unfold createServer enforceSinglePgnatsFdwServer
  dsimp only
  by_cases hcount : (((t.insert server).look s).visible s).length ≤ 1
  · rw [if_pos hcount, if_neg (Nat.not_lt.mpr hcount)]
  · rw [if_neg hcount, if_pos (Nat.lt_of_not_le hcount)]

/-- A transaction that goes on keeps the catalog guarded. -/
theorem Guarded.put (h : Guarded s) (hpast : t.looked_at ≤ s.commits)
    (hown : t.inserted.length ≤ 1) (halone : t.inserted ≠ [] → t.Alone s) :
    Guarded (s.put x t) := by
  refine ⟨h.single, fun y u hu => ?_, fun y u hu => ?_, fun y u hu => ?_⟩ <;>
    rcases HashMap.lookup_insert_eq_some hu with ⟨-, rfl⟩ | hold
  · exact hpast
  · exact h.past y u hold
  · exact hown
  · exact h.own y u hold
  · exact halone
  · exact h.alone y u hold

/-- A transaction that ends without an effect keeps the catalog guarded. -/
theorem Guarded.abort (h : Guarded s) : Guarded (s.abort x) :=
  ⟨h.single, fun y u hu => h.past y u (HashMap.lookup_erase_eq_some hu).2,
    fun y u hu => h.own y u (HashMap.lookup_erase_eq_some hu).2,
    fun y u hu => h.alone y u (HashMap.lookup_erase_eq_some hu).2⟩

/-- A transaction that has counted every server that it leaves keeps the catalog guarded when it
commits. -/
theorem Guarded.commit (h : Guarded s) (ht : s.running.lookup x = some t)
    (hcounted : CountedAll s t) : Guarded (s.commit x t) := by
  refine ⟨?_, fun y u hu => ?_, fun y u hu => ?_, fun y u hu hinserted => ?_⟩
  · show (t.remaining s ++ t.inserted.map (Row.mk s.commits)).length ≤ 1
    rw [List.length_append, List.length_map]
    by_cases hinserted : t.inserted = []
    · -- A transaction without a server of its own only takes rows away.
      rw [hinserted]
      exact (List.length_filter_le _ _).trans h.single
    · -- What it has counted it has dropped, so only its own server is left.
      have halone := h.alone x t ht hinserted
      rw [(ReadCommitted.remaining_eq_nil_iff halone).mpr (hcounted hinserted), List.length_nil,
        Nat.zero_add]
      exact h.own x t ht
  · exact (h.past y u (HashMap.lookup_erase_eq_some hu).2).trans (Nat.le_succ _)
  · exact h.own y u (HashMap.lookup_erase_eq_some hu).2
  · have hold := (HashMap.lookup_erase_eq_some hu).2
    exact ReadCommitted.alone_commit (h.alone y u hold hinserted) (h.past y u hold)

/-- `CREATE SERVER` keeps the catalog guarded: a transaction that goes on has seen its own server
only. -/
theorem guarded_createServer (h : Guarded s) (server : Server) :
    Guarded (createServer s x t server) := by
  rw [createServer_eq]
  split_ifs with hcount
  · unfold Transaction.visible at hcount
    rw [List.length_append, List.length_map] at hcount
    -- The count includes the new server, so there is no other.
    have hinserted : 1 ≤ ((t.insert server).look s).inserted.length := by
      simp [Transaction.look, Transaction.insert]
    have hnone : t.remaining s = [] := by
      have hzero : ((t.insert server).look s).remaining s = [] :=
        List.length_eq_zero_iff.mp (by omega)
      exact hzero
    refine h.put le_rfl (by omega) fun _ => ?_
    exact ReadCommitted.alone_look (t := t.insert server) hnone
  · exact h.abort

/-- `DROP SERVER` keeps the catalog guarded. -/
theorem guarded_dropServer {s' : FdwCatalog} (h : Guarded s) (ht : s.running.lookup x = some t)
    {name : String} (hstep : dropServer s x t name = some s') : Guarded s' := by
  unfold dropServer at hstep
  split_ifs at hstep with hown
  · obtain rfl := Option.some.inj hstep
    -- The server is the transaction's own.
    refine h.put (h.past x t ht) ((List.length_filter_le _ _).trans (h.own x t ht)) fun hne => ?_
    refine h.alone x t ht fun hnil => hne ?_
    dsimp only
    rw [hnil, List.filter_nil]
  · split at hstep
    · split_ifs at hstep
      obtain rfl := Option.some.inj hstep
      refine h.put (h.past x t ht) (h.own x t ht) fun hne => ?_
      exact ReadCommitted.alone_delete (h.alone x t ht hne) _
    · exact absurd hstep (by simp)

/-- Every step that meets the condition keeps the catalog guarded. -/
theorem guarded_step {s' : FdwCatalog} {e : Event} (h : Guarded s) (hok : CommitsCounted s e)
    (hstep : step s e = some s') : Guarded s' := by
  cases e with
  | begin x =>
    unfold step at hstep
    dsimp only at hstep
    split_ifs at hstep
    obtain rfl := Option.some.inj hstep
    exact h.put (Nat.zero_le _) (Nat.zero_le _) fun hne => absurd rfl hne
  | createServer x server =>
    obtain ⟨t, ht, hcreate⟩ := Option.bind_eq_some_iff.mp hstep
    split_ifs at hcreate
    obtain rfl := Option.some.inj hcreate
    exact guarded_createServer h server
  | dropServer x name =>
    obtain ⟨t, ht, hdrop⟩ := Option.bind_eq_some_iff.mp hstep
    exact guarded_dropServer h ht hdrop
  | commit x =>
    obtain ⟨t, ht, rfl⟩ := Option.map_eq_some_iff.mp hstep
    exact h.commit ht (hok t ht)
  | abort x =>
    obtain ⟨t, ht, rfl⟩ := Option.map_eq_some_iff.mp hstep
    exact h.abort

/-- A guarded catalog has a single server. -/
theorem Guarded.to_single (h : Guarded s) : Single s := by
  refine ⟨h.single, fun row hrow => ?_⟩
  obtain ⟨rest, hrest⟩ : ∃ rest, s.rows = row :: rest := by
    cases hrows : s.rows with
    | nil =>
      rw [hrows] at hrow
      exact absurd hrow List.not_mem_nil
    | cons first rest =>
      have hlength := h.single
      rw [hrows, List.length_cons] at hlength
      have hnil : rest = [] := List.length_eq_zero_iff.mp (by omega)
      rw [hrows, hnil, List.mem_singleton] at hrow
      exact ⟨rest, by rw [hrow]⟩
  rw [hrest]
  rfl

/-- A transaction that commits a server beside one that it has not counted leaves two. -/
theorem not_single_of_not_counted {s' : FdwCatalog} {e : Event} (hok : ¬ CommitsCounted s e)
    (hstep : step s e = some s') : ¬ Single s' := by
  cases e with
  | commit x =>
    obtain ⟨t, ht, rfl⟩ := Option.map_eq_some_iff.mp hstep
    unfold CommitsCounted CountedAll at hok
    push Not at hok
    obtain ⟨u, hu, hinserted, row, hrow, -⟩ := hok
    obtain rfl : u = t := Option.some.inj (hu.symm.trans ht)
    intro hsingle
    have hlength : (u.remaining s ++ u.inserted.map (Row.mk s.commits)).length ≤ 1 :=
      hsingle.at_most_one
    rw [List.length_append, List.length_map] at hlength
    -- The row that it leaves and its own server are two.
    have hrows := List.length_pos_of_mem hrow
    have hown := List.length_pos_of_ne_nil hinserted
    omega
  | _ => exact absurd trivial hok

end Step

/-- In a run of any number of transactions, at most one server is ever committed, exactly when each
transaction that commits a server has counted every other server that it leaves. -/
theorem single_server_iff {es : List Event} {s : FdwCatalog}
    (hrun : Run.run step Table.empty es = some s) :
    (∀ pre, pre <+: es → ∀ s, Run.run step Table.empty pre = some s → Single s) ↔
      RunAll step CommitsCounted Table.empty es := by
  have hempty : Guarded Table.empty := by
    refine ⟨Nat.zero_le _, fun x t ht => ?_, fun x t ht => ?_, fun x t ht => ?_⟩ <;>
      exact absurd ht (by simp [Table.empty])
  exact (Run.runAll_iff_forall_prefix (fun _ => Guarded.to_single) (fun _ _ _ => guarded_step)
    (fun _ _ _ _ => not_single_of_not_counted) hempty hrun).symm

/-- One server takes the place of another one: the second transaction counts after the commit of the
first. -/
theorem single_server_replaced :
    ∃ s, Run.run step Table.empty
        [.begin 0, .begin 1, .createServer 0 ⟨"a", []⟩, .commit 0, .dropServer 1 "a",
          .createServer 1 ⟨"b", []⟩, .commit 1] = some s ∧
      s.rows.map Row.value = [⟨"b", []⟩] ∧ Single s := by
  obtain ⟨s, hrun, hrows, hok⟩ : ∃ s, Run.run step Table.empty
      [.begin 0, .begin 1, .createServer 0 ⟨"a", []⟩, .commit 0, .dropServer 1 "a",
        .createServer 1 ⟨"b", []⟩, .commit 1] = some s ∧
      s.rows.map Row.value = [⟨"b", []⟩] ∧
      RunAll step CommitsCounted Table.empty
        [.begin 0, .begin 1, .createServer 0 ⟨"a", []⟩, .commit 0, .dropServer 1 "a",
          .createServer 1 ⟨"b", []⟩, .commit 1] := ⟨_, rfl, by decide, by decide⟩
  exact ⟨s, hrun, hrows, (single_server_iff hrun).mpr hok _ List.prefix_rfl s hrun⟩

/-- Two transactions create a server each, and neither count sees the other's. -/
theorem two_servers_committed :
    ∃ s, Run.run step Table.empty
        [.begin 0, .begin 1, .createServer 0 ⟨"a", []⟩, .createServer 1 ⟨"b", []⟩, .commit 0,
          .commit 1] = some s ∧
      s.rows.map Row.value = [⟨"a", []⟩, ⟨"b", []⟩] ∧ ¬ Single s := by
  obtain ⟨s, hrun, hrows⟩ : ∃ s, Run.run step Table.empty
      [.begin 0, .begin 1, .createServer 0 ⟨"a", []⟩, .createServer 1 ⟨"b", []⟩, .commit 0,
        .commit 1] = some s ∧ s.rows.map Row.value = [⟨"a", []⟩, ⟨"b", []⟩] :=
    ⟨_, rfl, by decide⟩
  refine ⟨s, hrun, hrows, fun hsingle => ?_⟩
  have hlength := hsingle.at_most_one
  rw [← List.length_map (f := Row.value), hrows] at hlength
  exact absurd hlength (by decide)

end FdwCatalog

end PgNats
