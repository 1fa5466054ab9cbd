import PgNats.Lib.Collections

/-!
# Transactions that read what is committed

Rows that concurrent transactions insert and delete. A statement of a transaction sees the rows that
are committed when it runs, but for those that the transaction has deleted, and the rows that it has
inserted itself; it does not see what other transactions have not committed. A row carries the
number of transactions that had committed before its own, and a transaction remembers that number
from the moment when it last looked at the rows.

A transaction that looked and found no row but its own is `Alone`: every row from before that moment
is one that it has deleted. The commits of other transactions do not change that, since their rows
are from after the moment, and so the transaction finds at its commit no row but such rows
(`remaining_eq_nil_iff`).
-/

namespace PgNats.ReadCommitted

variable {α : Type}

/-- A committed row. -/
structure Row (α : Type) where
  /-- How many transactions had committed before. -/
  committed_at : ℕ
  /-- What it holds. -/
  value : α
  deriving DecidableEq, Repr

/-- A running transaction. -/
structure Transaction (α : Type) where
  /-- The rows that it has inserted. -/
  inserted : List α
  /-- The committed rows that it has deleted. -/
  deleted : List (Row α)
  /-- How many transactions had committed when it last looked. -/
  looked_at : ℕ
  deriving DecidableEq

/-- The committed rows and the running transactions. -/
structure Table (α : Type) where
  /-- The committed rows. -/
  rows : List (Row α)
  /-- How many transactions have committed. -/
  commits : ℕ
  /-- The running transactions. -/
  running : HashMap ℕ (Transaction α)
  deriving DecidableEq

namespace Transaction

/-- A new transaction. -/
def new : Transaction α := { inserted := [], deleted := [], looked_at := 0 }

/-- It inserts a row. -/
def insert (t : Transaction α) (value : α) : Transaction α :=
  { t with inserted := t.inserted ++ [value] }

/-- It deletes a committed row. -/
def delete (t : Transaction α) (row : Row α) : Transaction α :=
  { t with deleted := t.deleted ++ [row] }

variable [DecidableEq α]

/-- The committed rows that it has not deleted. -/
def remaining (t : Transaction α) (s : Table α) : List (Row α) := s.rows.filter (· ∉ t.deleted)

/-- What its statements see. -/
def visible (t : Transaction α) (s : Table α) : List α :=
  (t.remaining s).map Row.value ++ t.inserted

/-- It looks at the rows. -/
def look (t : Transaction α) (s : Table α) : Transaction α := { t with looked_at := s.commits }

/-- Each row from before it last looked is one that it has deleted. -/
def Alone (t : Transaction α) (s : Table α) : Prop :=
  ∀ row ∈ s.rows, row.committed_at < t.looked_at → row ∈ t.deleted

end Transaction

namespace Table

/-- No rows and no transactions. -/
def empty : Table α := { rows := [], commits := 0, running := ∅ }

/-- A transaction is in this state. -/
def put (s : Table α) (x : ℕ) (t : Transaction α) : Table α :=
  { s with running := s.running.insert x t }

/-- A transaction ends without an effect. -/
def abort (s : Table α) (x : ℕ) : Table α := { s with running := s.running.erase x }

/-- A transaction commits its changes. -/
def commit [DecidableEq α] (s : Table α) (x : ℕ) (t : Transaction α) : Table α where
  rows := t.remaining s ++ t.inserted.map (Row.mk s.commits)
  commits := s.commits + 1
  running := s.running.erase x

/-- No transaction has looked at a later time. -/
def Past (s : Table α) : Prop := ∀ x t, s.running.lookup x = some t → t.looked_at ≤ s.commits

end Table

/-- Deleting more rows keeps a transaction alone. -/
theorem alone_delete {s : Table α} {t : Transaction α} (h : t.Alone s) (row : Row α) :
    (t.delete row).Alone s :=
  fun row' hrow' hbefore => List.mem_append_left _ (h row' hrow' hbefore)

section Alone

variable [DecidableEq α] {s : Table α} {t u : Transaction α} {x : ℕ}

/-- A row remains when it is committed and not deleted. -/
theorem mem_remaining {row : Row α} : row ∈ t.remaining s ↔ row ∈ s.rows ∧ row ∉ t.deleted := by
  unfold Transaction.remaining
  rw [List.mem_filter, decide_eq_true_iff]

/-- A transaction that looks and finds no committed row is alone. -/
theorem alone_look (h : t.remaining s = []) : (t.look s).Alone s := by
  intro row hrow _
  by_contra hdeleted
  have hmem : row ∈ t.remaining s := mem_remaining.mpr ⟨hrow, hdeleted⟩
  rw [h] at hmem
  exact absurd hmem List.not_mem_nil

/-- The commit of another transaction keeps a transaction alone: the rows that it adds are later. -/
theorem alone_commit (h : t.Alone s) (hpast : t.looked_at ≤ s.commits) :
    t.Alone (s.commit x u) := by
  intro row hrow hbefore
  rcases List.mem_append.mp hrow with hold | hnew
  · exact h row (mem_remaining.mp hold).1 hbefore
  · -- A new row is from now, and no transaction has looked later than now.
    obtain ⟨value, -, rfl⟩ := List.mem_map.mp hnew
    exact absurd hbefore (Nat.not_lt.mpr hpast)

/-- For a transaction that is alone, no committed row remains exactly when those that remain are
from before it last looked. -/
theorem remaining_eq_nil_iff (h : t.Alone s) :
    t.remaining s = [] ↔ ∀ row ∈ t.remaining s, row.committed_at < t.looked_at := by
  constructor
  · intro hnone row hrow
    rw [hnone] at hrow
    exact absurd hrow List.not_mem_nil
  · intro hbefore
    rw [List.eq_nil_iff_forall_not_mem]
    intro row hrow
    obtain ⟨hcommitted, hdeleted⟩ := mem_remaining.mp hrow
    exact hdeleted (h row hcommitted (hbefore row hrow))

end Alone

end PgNats.ReadCommitted
