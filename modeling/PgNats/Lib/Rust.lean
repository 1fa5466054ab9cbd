import Mathlib.Data.Vector.Basic
import Mathlib.Tactic.Ring

/-!
# Rust's machine arithmetic and slices

The operations of safe Rust that can panic, as functions into `Except Panic`: `usize` arithmetic,
slice ranges, `copy_from_slice`, and `vec![0; n]`. A `usize` is a natural number below `2^64`, a
slice is a list, and an array `[T; N]` is a list of length `N`, so an array cannot change its
length. Whether an overflow panics depends on the build: the dev profile checks it, and the release
profile wraps. Where the checked operation succeeds, both profiles agree (`add_ok`, `sub_ok`).

`toLeBytes` and `fromLeBytes` are `usize::to_le_bytes` and `usize::from_le_bytes`.
-/

namespace PgNats.Rust

/-- What makes a safe Rust expression panic. -/
inductive Panic where
  /-- `+` or `-` on `usize` leaves its range, in a build that checks it. -/
  | arithmetic
  /-- A slice range is reversed or runs past the end. -/
  | sliceRange
  /-- `copy_from_slice` between slices of different lengths. -/
  | copyLength
  /-- An allocation of more than `isize::MAX` bytes. -/
  | capacity
  deriving DecidableEq, Repr

/-- The build profile, which decides what an arithmetic overflow does. -/
inductive Profile where
  /-- Overflow checks are on: an overflow panics. -/
  | dev
  /-- Overflow checks are off: an overflow wraps modulo `2^64`. -/
  | release
  deriving DecidableEq, Repr

/-- `usize::MAX + 1` on a 64-bit target. -/
def usizeRange : ℕ := 2 ^ 64

/-- `isize::MAX`, the largest size in bytes of any Rust object. -/
def isizeMax : ℕ := 2 ^ 63 - 1

/-- A value that succeeds passes to the rest of the block. -/
@[simp] theorem ok_bind {α β : Type} (a : α) (f : α → Except Panic β) :
    (Except.ok a >>= f) = f a := rfl

/-- A panic ends the block. -/
@[simp] theorem error_bind {α β : Type} (e : Panic) (f : α → Except Panic β) :
    ((Except.error e : Except Panic α) >>= f) = Except.error e := rfl

/-- Returning from a block is success. -/
@[simp] theorem pure_eq_ok {α : Type} (a : α) : (pure a : Except Panic α) = Except.ok a := rfl

/-! ## Arithmetic on `usize` -/

/-- `a + b` on `usize`. -/
def add (p : Profile) (a b : ℕ) : Except Panic ℕ :=
  if a + b < usizeRange then .ok (a + b)
  else match p with
    | .dev => .error .arithmetic
    | .release => .ok ((a + b) % usizeRange)

/-- `a - b` on `usize`. -/
def sub (p : Profile) (a b : ℕ) : Except Panic ℕ :=
  if b ≤ a then .ok (a - b)
  else match p with
    | .dev => .error .arithmetic
    | .release => .ok ((a + usizeRange - b) % usizeRange)

/-- A sum in range is exact in both profiles. -/
theorem add_ok {p : Profile} {a b : ℕ} (h : a + b < usizeRange) : add p a b = .ok (a + b) :=
  if_pos h

/-- The dev profile refuses a sum out of range. -/
theorem add_dev_overflow {a b : ℕ} (h : usizeRange ≤ a + b) :
    add .dev a b = .error .arithmetic := if_neg (Nat.not_lt.mpr h)

/-- The release profile wraps a sum out of range. -/
theorem add_release_overflow {a b : ℕ} (h : usizeRange ≤ a + b) :
    add .release a b = .ok ((a + b) % usizeRange) := if_neg (Nat.not_lt.mpr h)

/-- Two positions in a value of any type add up to a number in range. -/
theorem lt_usizeRange {n size : ℕ} (hsize : size ≤ isizeMax) (h : n ≤ 2 * size) :
    n < usizeRange := by
  unfold isizeMax at hsize
  unfold usizeRange
  omega

/-- A difference in range is exact in both profiles. -/
theorem sub_ok {p : Profile} {a b : ℕ} (h : b ≤ a) : sub p a b = .ok (a - b) := if_pos h

/-! ## Slices and arrays -/

section Slices

variable {α : Type} {n : ℕ}

/-- `src[a..b]`. -/
def slice (src : List α) (a b : ℕ) : Except Panic (List α) :=
  if a ≤ b ∧ b ≤ src.length then .ok ((src.drop a).take (b - a)) else .error .sliceRange

/-- `dst[a..b].copy_from_slice(src)`. -/
def copyInto (dst : List.Vector α n) (a b : ℕ) (src : List α) :
    Except Panic (List.Vector α n) :=
  if h : a ≤ b ∧ b ≤ n then
    if h' : src.length = b - a then
      .ok ⟨dst.toList.take a ++ src ++ dst.toList.drop b, by simp; omega⟩
    else .error .copyLength
  else .error .sliceRange

/-- `vec![0u8; len]`. -/
def zeroed (len : ℕ) : Except Panic (List.Vector UInt8 len) :=
  if len ≤ isizeMax then .ok (List.Vector.replicate len 0) else .error .capacity

/-- A range inside the slice selects its elements. -/
theorem slice_ok {src : List α} {a b : ℕ} (hab : a ≤ b) (hb : b ≤ src.length) :
    slice src a b = .ok ((src.drop a).take (b - a)) := if_pos ⟨hab, hb⟩

/-- A range past the end of the slice panics. -/
theorem slice_error {src : List α} {a b : ℕ} (hb : src.length < b) :
    slice src a b = .error .sliceRange := if_neg fun h => by omega

/-- A copy into a range of its own length replaces that range and nothing else. -/
theorem copyInto_ok (dst : List.Vector α n) {a b : ℕ} {src : List α} (hab : a ≤ b) (hb : b ≤ n)
    (hlen : src.length = b - a) :
    ∃ v, copyInto dst a b src = .ok v ∧ v.toList = dst.toList.take a ++ src ++ dst.toList.drop b :=
  ⟨⟨dst.toList.take a ++ src ++ dst.toList.drop b, by simp; omega⟩,
    by rw [copyInto, dif_pos ⟨hab, hb⟩, dif_pos hlen], rfl⟩

/-- A copy over a whole array leaves exactly the source. -/
theorem copyInto_all (dst : List.Vector α n) {src : List α} (hlen : src.length = n) :
    ∃ v, copyInto dst 0 n src = .ok v ∧ v.toList = src := by
  obtain ⟨v, hv, hl⟩ := copyInto_ok dst (Nat.zero_le n) le_rfl (by simpa using hlen)
  exact ⟨v, hv, by rw [hl]; simp⟩

/-- An allocation that fits succeeds. -/
theorem zeroed_ok {len : ℕ} (h : len ≤ isizeMax) :
    zeroed len = .ok (List.Vector.replicate len 0) := if_pos h

/-- An allocation of more than `isize::MAX` bytes panics. -/
theorem zeroed_error {len : ℕ} (h : isizeMax < len) : zeroed len = .error .capacity :=
  if_neg (Nat.not_le.mpr h)

end Slices

/-! ## Little-endian bytes -/

/-- The `k` low bytes of `n`, the least significant first. -/
def toLeBytes : ℕ → ℕ → List UInt8
  | 0, _ => []
  | k + 1, n => UInt8.ofNat n :: toLeBytes k (n / 256)

/-- The number that little-endian bytes encode. -/
def fromLeBytes : List UInt8 → ℕ
  | [] => 0
  | b :: bs => b.toNat + 256 * fromLeBytes bs

/-- The encoding has the requested number of bytes. -/
@[simp] theorem length_toLeBytes : ∀ k n, (toLeBytes k n).length = k
  | 0, _ => rfl
  | k + 1, n => by rw [toLeBytes, List.length_cons, length_toLeBytes k]

/-- As many bytes as there are bound the number that they encode. -/
theorem fromLeBytes_lt : ∀ bs : List UInt8, fromLeBytes bs < 256 ^ bs.length
  | [] => Nat.one_pos
  | b :: bs => by
    have hb : b.toNat < 256 := b.toNat_lt
    have hbs : fromLeBytes bs < 256 ^ bs.length := fromLeBytes_lt bs
    rw [fromLeBytes, List.length_cons, pow_succ]
    omega

/-- Decoding gives the number back when it fits in `k` bytes. -/
theorem fromLeBytes_toLeBytes : ∀ k n, n < 256 ^ k → fromLeBytes (toLeBytes k n) = n
  | 0, n, h => by
    have : n = 0 := by simpa using h
    rw [this, toLeBytes, fromLeBytes]
  | k + 1, n, h => by
    have hdiv : n / 256 < 256 ^ k := by
      rw [Nat.div_lt_iff_lt_mul (by norm_num)]
      rwa [pow_succ] at h
    rw [toLeBytes, fromLeBytes, fromLeBytes_toLeBytes k _ hdiv, UInt8.toNat_ofNat']
    omega

end PgNats.Rust
