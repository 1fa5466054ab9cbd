import Mathlib.Data.List.Rotate

/-!
# Reading and writing a list cyclically

A ring buffer keeps its data in a list whose end is followed by its start. `l.rotate pos` is the
content of such a list as it reads from position `pos`, so a cyclic read is a prefix of a rotation,
and a cyclic write of `data` at `pos` is a list whose rotation by `pos` starts with `data` and goes
on as before (`Wrote`). A write that stays before the end (`Wrote.contiguous`), a write split across
the end (`Wrote.wrapped`), and two adjacent writes (`Wrote.append`) are all of this form.

`prefix_append_of_wrote` and `prefix_of_prefix_append` are the two facts behind a queue: data that
is written right after the stored prefix extends it, and reading past the first part of the stored
data leaves the rest as the prefix.
-/

namespace PgNats.Cyclic

variable {α : Type} {l l₁ l₂ data : List α} {pos : ℕ}

/-- A rotation that moves `a` from the front to the back determines the list. -/
theorem eq_append_of_rotate {x a b : List α} (h : x.rotate a.length = b ++ a) : x = a ++ b := by
  rw [← List.rotate_append_length_eq a b] at h
  exact List.rotate_eq_rotate.mp h

/-- `l₁` is `l` with `data` written cyclically at `pos`. -/
structure Wrote (l : List α) (pos : ℕ) (data l₁ : List α) : Prop where
  /-- The write keeps the length of the buffer. -/
  length_eq : l₁.length = l.length
  /-- From `pos` on, `data` replaces as many elements, and the rest is as it was. -/
  rotate_eq : l₁.rotate pos = data ++ (l.rotate pos).drop data.length

/-- A position counts modulo the length of the buffer. -/
theorem Wrote.mod_pos (h : Wrote l pos data l₁) : Wrote l (pos % l.length) data l₁ := by
  refine ⟨h.length_eq, ?_⟩
  rw [← h.length_eq, List.rotate_mod, h.length_eq, List.rotate_mod]
  exact h.rotate_eq

/-- A write between `pos` and the end of the buffer. -/
theorem Wrote.contiguous (h : pos + data.length ≤ l.length) :
    Wrote l pos data (l.take pos ++ data ++ l.drop (pos + data.length)) := by
  have hlen : (l.take pos).length = pos := by rw [List.length_take]; omega
  refine ⟨by simp; omega, ?_⟩
  calc (l.take pos ++ data ++ l.drop (pos + data.length)).rotate pos
      = (l.take pos ++ (data ++ l.drop (pos + data.length))).rotate (l.take pos).length := by
        rw [hlen, List.append_assoc]
    _ = data ++ l.drop (pos + data.length) ++ l.take pos := List.rotate_append_length_eq _ _
    _ = data ++ (l.drop pos ++ l.take pos).drop data.length := by
        rw [List.drop_append_of_le_length (by rw [List.length_drop]; omega), List.drop_drop,
          List.append_assoc]
    _ = data ++ (l.rotate pos).drop data.length := by
        rw [List.rotate_eq_drop_append_take (by omega)]

/-- A write split across the end of the buffer: the first part fills it up from `pos`, and the
second part goes to its start. -/
theorem Wrote.wrapped {k : ℕ} (hk : pos + k = l.length) (hkd : k ≤ data.length)
    (hd : data.length ≤ l.length) :
    Wrote l pos data
      (data.drop k ++ ((l.take pos).drop (data.length - k)) ++ data.take k) := by
  have hfront : (data.drop k ++ (l.take pos).drop (data.length - k)).length = pos := by
    simp; omega
  have hgone : (l.drop pos).drop data.length = [] := List.drop_eq_nil_of_le (by simp; omega)
  refine ⟨by simp; omega, ?_⟩
  calc (data.drop k ++ (l.take pos).drop (data.length - k) ++ data.take k).rotate pos
      = (data.drop k ++ (l.take pos).drop (data.length - k) ++ data.take k).rotate
          (data.drop k ++ (l.take pos).drop (data.length - k)).length := by rw [hfront]
    _ = data.take k ++ (data.drop k ++ (l.take pos).drop (data.length - k)) :=
        List.rotate_append_length_eq _ _
    _ = data ++ (l.take pos).drop (data.length - k) := by
        rw [← List.append_assoc, List.take_append_drop]
    _ = data ++ (l.drop pos ++ l.take pos).drop data.length := by
        rw [List.drop_append, hgone, List.nil_append]
        congr 2
        simp; omega
    _ = data ++ (l.rotate pos).drop data.length := by
        rw [List.rotate_eq_drop_append_take (by omega)]

/-- Two adjacent writes are one write of both pieces. The second position counts modulo the length
of the buffer. -/
theorem Wrote.append {a b : List α} {next : ℕ} (h₁ : Wrote l pos a l₁) (h₂ : Wrote l₁ next b l₂)
    (hnext : next = (pos + a.length) % l.length) (hlen : a.length + b.length ≤ l.length) :
    Wrote l pos (a ++ b) l₂ := by
  have hrest : b.length ≤ ((l.rotate pos).drop a.length).length := by simp; omega
  have hmid : l₁.rotate next = (l.rotate pos).drop a.length ++ a := by
    rw [hnext, ← h₁.length_eq, List.rotate_mod, ← List.rotate_rotate, h₁.rotate_eq,
      List.rotate_append_length_eq]
  have hlast : (l₂.rotate pos).rotate a.length
      = (b ++ ((l.rotate pos).drop a.length).drop b.length) ++ a := by
    rw [List.rotate_rotate, ← List.rotate_mod, h₂.length_eq, h₁.length_eq, ← hnext,
      h₂.rotate_eq, hmid, List.drop_append_of_le_length hrest, List.append_assoc]
  refine ⟨h₂.length_eq.trans h₁.length_eq, ?_⟩
  rw [eq_append_of_rotate hlast, List.append_assoc, List.length_append, List.drop_drop]

/-- Data written right after the stored prefix extends it, as long as it fits. -/
theorem prefix_append_of_wrote {stored : List α} {read write : ℕ} (hst : stored <+: l.rotate read)
    (hw : write = (read + stored.length) % l.length) (h : Wrote l write data l₁)
    (hfit : stored.length + data.length ≤ l.length) : stored ++ data <+: l₁.rotate read := by
  obtain ⟨free, hfree⟩ := hst
  have hlen : stored.length + free.length = l.length := by
    rw [← List.length_append, hfree, List.length_rotate]
  have hold : l.rotate write = free ++ stored := by
    rw [hw, List.rotate_mod, ← List.rotate_rotate, ← hfree, List.rotate_append_length_eq]
  have hnew : (l₁.rotate read).rotate stored.length =
      (data ++ free.drop data.length) ++ stored := by
    rw [List.rotate_rotate, ← List.rotate_mod, h.length_eq, ← hw, h.rotate_eq, hold,
      List.drop_append_of_le_length (by omega), List.append_assoc]
  rw [eq_append_of_rotate hnew, ← List.append_assoc]
  exact List.prefix_append _ _

/-- Moving the read position past the first part of the stored data leaves the rest stored. -/
theorem prefix_of_prefix_append {first rest : List α} {read : ℕ}
    (h : first ++ rest <+: l.rotate read) : rest <+: l.rotate (read + first.length) := by
  obtain ⟨free, hfree⟩ := h
  rw [← List.rotate_rotate, ← hfree, List.append_assoc, List.rotate_append_length_eq,
    List.append_assoc]
  exact List.prefix_append _ _

/-- A read between `pos` and the end of the buffer. -/
theorem take_rotate_contiguous {n : ℕ} (h : pos + n ≤ l.length) :
    (l.rotate pos).take n = (l.drop pos).take n := by
  rw [List.rotate_eq_drop_append_take (by omega),
    List.take_append_of_le_length (by rw [List.length_drop]; omega)]

/-- A read split across the end of the buffer: the part from `pos` to the end, then the part from
the start. -/
theorem take_rotate_wrapped {n : ℕ} (hpos : pos ≤ l.length) (h : l.length ≤ pos + n)
    (hn : n ≤ l.length) :
    (l.rotate pos).take n = l.drop pos ++ l.take (n - (l.length - pos)) := by
  rw [List.rotate_eq_drop_append_take hpos, List.take_append,
    List.take_of_length_le (by rw [List.length_drop]; omega), List.length_drop, List.take_take,
    min_eq_left (by omega)]

end PgNats.Cyclic
