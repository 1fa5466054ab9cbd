import PgNats.RingQueue.Refinement

/-!
# The guard of `try_recv` against corrupted data

`tryRecv_eq` in `Refinement` is `try_recv` on a record that lies in the used bytes. Here the bytes
are arbitrary, and so is the 64-bit length that they give for the oldest record. The guard is there
to drop a record that does not lie in the used bytes (`GuardsRecord`), and compares the used bytes
with the sum of the header's size and the length. That sum is one of `usize`: for the eight largest
lengths it overflows. The dev profile then panics in the guard, and in the release profile the sum
wraps to less than the size of a header, so the guard lets the record through and the allocation of
its bytes panics. `guards_record_iff` says that these lengths are the only ones that fail.
-/

namespace PgNats.RingQueue

open Rust (Panic Profile zeroed fromLeBytes usizeRange isizeMax)

variable {CAPACITY : ℕ} {p : Profile} {q : RingQueue CAPACITY}

/-- What the guard is for: `try_recv` returns, and what it does depends on whether the oldest
record, with the length that its header gives, lies in the used bytes. -/
structure GuardsRecord (p : Profile) (q : RingQueue CAPACITY) : Prop where
  /-- A record that does not is dropped, and the queue is as before. -/
  rejected : q.usedLen < HEADER_SIZE + q.headLen → tryRecv p q = .ok (q, none)
  /-- The message of a record that does is the bytes behind the header, taken cyclically. The read
  index moves by the record and not past the write index: the used bytes decrease by it. -/
  accepted : HEADER_SIZE + q.headLen ≤ q.usedLen →
    ∃ q' : RingQueue CAPACITY,
      tryRecv p q =
        .ok (q', some (((q.buffer.toList.rotate q.read).drop HEADER_SIZE).take q.headLen)) ∧
      q'.read = (q.read + (HEADER_SIZE + q.headLen)) % CAPACITY ∧
      q'.write = q.write ∧ q'.is_full = false ∧ q'.buffer = q.buffer ∧
      q'.usedLen + (HEADER_SIZE + q.headLen) = q.usedLen

/-- A length is any number of 64 bits. -/
theorem headLen_lt : q.headLen < usizeRange := by
  have hle : ((q.buffer.toList.rotate q.read).take HEADER_SIZE).length ≤ HEADER_SIZE :=
    List.length_take_le _ _
  calc q.headLen
      < 256 ^ ((q.buffer.toList.rotate q.read).take HEADER_SIZE).length := Rust.fromLeBytes_lt _
    _ ≤ 256 ^ HEADER_SIZE := Nat.pow_le_pow_right (by norm_num) hle

/-- The used bytes of a queue that is not full are some of its buffer's. -/
theorem usedLen_lt (hread : q.read < CAPACITY) (hwrite : q.write < CAPACITY)
    (hfull : q.is_full = false) : q.usedLen < CAPACITY := by
  rcases le_or_gt q.read q.write with hle | hgt
  · rw [usedLen_of_le hfull hle]
    omega
  · rw [usedLen_of_lt hfull hgt]
    omega

/-- Up to the guard and the allocation behind it both branches of `try_recv` are the same: they get
the length from the header, taken cyclically, and compare the record with the used bytes. -/
theorem tryRecv_head (hmax : CAPACITY ≤ isizeMax) (hread : q.read < CAPACITY)
    (hwrite : q.write < CAPACITY) (hfull : q.is_full = false) (hused : HEADER_SIZE ≤ q.usedLen) :
    ∃ rest : List.Vector UInt8 q.headLen →
        Except Panic (RingQueue CAPACITY × Option (List UInt8)),
      tryRecv p q = (do
        if ← corrupted p false (.ok q.usedLen) q.headLen then
          return (q, none)
        rest (← zeroed q.headLen)) := by
  have hH : HEADER_SIZE = 8 := rfl
  have hbelow : q.usedLen < CAPACITY := usedLen_lt hread hwrite hfull
  have hadd : q.read + HEADER_SIZE < usizeRange := Rust.lt_usizeRange hmax (by omega)
  have hnonempty : ¬ (q.read = q.write ∧ ¬ q.is_full = true) := by
    rintro ⟨heq, -⟩
    rw [usedLen_of_le hfull heq.le] at hused
    omega
  unfold tryRecv
  rw [Rust.add_ok hadd, Rust.ok_bind, if_neg hnonempty]
  rcases le_or_gt q.read q.write with hle | hgt
  · -- The used bytes end at the write index, so the header lies before the end of the buffer.
    have hu : q.usedLen = q.write - q.read := usedLen_of_le hfull hle
    obtain ⟨hs, v, hv, hvl⟩ := copyOut_eq q.buffer q.read
      (List.Vector.replicate HEADER_SIZE 0) (by omega)
    have hhead : fromLeBytes v.toList = q.headLen := by rw [hvl]; rfl
    rw [if_pos hle, hs, Rust.ok_bind, hv, Rust.ok_bind, hhead]
    dsimp only
    rw [Rust.sub_ok hle, ← hu, hfull]
    exact ⟨_, rfl⟩
  · have hu : q.usedLen = CAPACITY - (q.read - q.write) := usedLen_of_lt hfull hgt
    obtain ⟨v, hv, hvl⟩ := readWrapping_eq p q.buffer q.read
      (List.Vector.replicate HEADER_SIZE 0) hmax hread.le (show HEADER_SIZE ≤ CAPACITY by omega)
    have hhead : fromLeBytes v.toList = q.headLen := by rw [hvl]; rfl
    rw [if_neg (by omega), hv, Rust.ok_bind, hhead]
    dsimp only
    rw [Rust.sub_ok hgt.le, Rust.ok_bind, Rust.sub_ok (by omega), ← hu, hfull]
    exact ⟨_, rfl⟩

/-- A record that leaves the used bytes is dropped, as long as the sum in the guard is in range. -/
theorem tryRecv_corrupted (hmax : CAPACITY ≤ isizeMax) (hread : q.read < CAPACITY)
    (hwrite : q.write < CAPACITY) (hfull : q.is_full = false) (hused : HEADER_SIZE ≤ q.usedLen)
    (hlen : q.usedLen < HEADER_SIZE + q.headLen) (hsum : HEADER_SIZE + q.headLen < usizeRange) :
    tryRecv p q = .ok (q, none) := by
  obtain ⟨rest, hrecv⟩ := tryRecv_head (p := p) hmax hread hwrite hfull hused
  have hguard : corrupted p false (.ok q.usedLen) q.headLen = .ok true := by
    unfold corrupted
    rw [if_neg Bool.false_ne_true, Rust.ok_bind, Rust.add_ok hsum, Rust.ok_bind,
      decide_eq_true hlen, Rust.pure_eq_ok]
  rw [hrecv, hguard, Rust.ok_bind, if_pos rfl, Rust.pure_eq_ok]

/-- A sum out of range makes `try_recv` panic: in the guard itself, or, where the sum wraps, behind
it, since no allocation has that many bytes. -/
theorem tryRecv_overflow (hmax : CAPACITY ≤ isizeMax) (hread : q.read < CAPACITY)
    (hwrite : q.write < CAPACITY) (hfull : q.is_full = false) (hused : HEADER_SIZE ≤ q.usedLen)
    (hsum : usizeRange ≤ HEADER_SIZE + q.headLen) :
    tryRecv p q = .error (match p with | .dev => .arithmetic | .release => .capacity) := by
  obtain ⟨rest, hrecv⟩ := tryRecv_head (p := p) hmax hread hwrite hfull hused
  rw [hrecv]
  cases p with
  | dev =>
    have hguard : corrupted .dev false (.ok q.usedLen) q.headLen = .error .arithmetic := by
      unfold corrupted
      rw [if_neg Bool.false_ne_true, Rust.ok_bind, Rust.add_dev_overflow hsum, Rust.error_bind]
    rw [hguard, Rust.error_bind]
  | release =>
    have hlen : q.headLen < usizeRange := headLen_lt
    have hrange : usizeRange = 2 ^ 64 := rfl
    have hH : HEADER_SIZE = 8 := rfl
    -- The sum wraps to less than the size of a header, which is in use.
    have hwrap : (HEADER_SIZE + q.headLen) % usizeRange < HEADER_SIZE := by
      rw [Nat.mod_eq_sub_mod hsum, Nat.mod_eq_of_lt (by omega)]
      omega
    have hguard : corrupted .release false (.ok q.usedLen) q.headLen = .ok false := by
      unfold corrupted
      rw [if_neg Bool.false_ne_true, Rust.ok_bind, Rust.add_release_overflow hsum, Rust.ok_bind,
        decide_eq_false (by omega), Rust.pure_eq_ok]
    have halloc : zeroed q.headLen = .error .capacity := by
      apply Rust.zeroed_error
      unfold isizeMax
      omega
    rw [hguard, Rust.ok_bind, if_neg Bool.false_ne_true, halloc, Rust.error_bind]

/-- A record that lies in the used bytes is received, and the used bytes decrease by it. -/
theorem tryRecv_accepted (hmax : CAPACITY ≤ isizeMax) (hread : q.read < CAPACITY)
    (hwrite : q.write < CAPACITY) (hfull : q.is_full = false)
    (hlen : HEADER_SIZE + q.headLen ≤ q.usedLen) :
    ∃ q' : RingQueue CAPACITY,
      tryRecv p q =
        .ok (q', some (((q.buffer.toList.rotate q.read).drop HEADER_SIZE).take q.headLen)) ∧
      q'.read = (q.read + (HEADER_SIZE + q.headLen)) % CAPACITY ∧
      q'.write = q.write ∧ q'.is_full = false ∧ q'.buffer = q.buffer ∧
      q'.usedLen + (HEADER_SIZE + q.headLen) = q.usedLen := by
  have hnever : q.is_full = true → False := fun hf => by rw [hfull] at hf; contradiction
  have hrecv := tryRecv_eq (p := p) hmax hread.le hwrite (fun hf => (hnever hf).elim) hlen
    (show Sound q .recv from fun hf => (hnever hf).elim)
  refine ⟨_, hrecv, ?_, rfl, rfl, rfl, ?_⟩
  · dsimp only
    split_ifs with hle
    · -- The record ends at the write index at the latest.
      rw [usedLen_of_le hfull hle] at hlen
      rw [Nat.mod_eq_of_lt (by omega)]
    · rfl
  · rcases le_or_gt q.read q.write with hle | hgt
    · rw [usedLen_of_le hfull hle] at hlen ⊢
      rw [usedLen_of_le rfl (by simp only [if_pos hle]; omega)]
      simp only [if_pos hle]
      omega
    · rw [usedLen_of_lt hfull hgt] at hlen ⊢
      simp only [if_neg (show ¬ q.read ≤ q.write by omega)]
      -- The record ends before the end of the buffer, or wraps past it once.
      rcases lt_or_ge (q.read + (HEADER_SIZE + q.headLen)) CAPACITY with hin | hout
      · rw [Nat.mod_eq_of_lt hin, usedLen_of_lt rfl (by dsimp only; omega)]
        dsimp only
        omega
      · rw [Nat.mod_eq_sub_mod hout, Nat.mod_eq_of_lt (by omega),
          usedLen_of_le rfl (by dsimp only; omega)]
        dsimp only
        omega

/-- The guard does its work exactly for the lengths whose sum with the size of the header is in
range, whatever the bytes of the buffer and wherever the record lies in it. -/
theorem guards_record_iff (hmax : CAPACITY ≤ isizeMax) (hread : q.read < CAPACITY)
    (hwrite : q.write < CAPACITY) (hfull : q.is_full = false) (hused : HEADER_SIZE ≤ q.usedLen) :
    GuardsRecord p q ↔ HEADER_SIZE + q.headLen < usizeRange := by
  constructor
  · intro hguard
    by_contra hsum
    have hover : usizeRange ≤ HEADER_SIZE + q.headLen := Nat.not_lt.mp hsum
    have hbelow : q.usedLen < CAPACITY := usedLen_lt hread hwrite hfull
    have hsmall : q.usedLen < usizeRange := Rust.lt_usizeRange hmax (by omega)
    have hok := hguard.rejected (by omega)
    rw [tryRecv_overflow hmax hread hwrite hfull hused hover] at hok
    cases hok
  · intro hsum
    exact {
      rejected := fun hlen => tryRecv_corrupted hmax hread hwrite hfull hused hlen hsum
      accepted := fun hlen => tryRecv_accepted hmax hread hwrite hfull hlen }

/-- A queue with twelve used bytes from the index 12 on. Its record is a header and a message of
four bytes, which wraps past the end of the buffer and ends where the used bytes do. -/
def wrappedRecord : RingQueue 16 where
  read := 12
  write := 8
  is_full := false
  buffer := ⟨[0, 0, 0, 0, 1, 2, 3, 4, 0, 0, 0, 0, 4, 0, 0, 0], rfl⟩

/-- The guard lets the wrapped record through. -/
theorem guards_wrappedRecord : GuardsRecord .release wrappedRecord :=
  (guards_record_iff (by decide) (by decide) (by decide) rfl (by decide)).mpr (by decide)

/-- A queue with eight used bytes, the header of a record with the largest length. -/
def largestLength : RingQueue 16 where
  read := 0
  write := 8
  is_full := false
  buffer := List.Vector.replicate 16 255

/-- The record of the largest length is not dropped: the dev build panics in the guard, and the
release build panics behind it. -/
theorem largestLength_panics :
    HEADER_SIZE ≤ largestLength.usedLen ∧
      tryRecv .dev largestLength = .error .arithmetic ∧
      tryRecv .release largestLength = .error .capacity ∧
      ¬ GuardsRecord .dev largestLength ∧ ¬ GuardsRecord .release largestLength := by
  have hdev : tryRecv .dev largestLength = .error .arithmetic := by rfl
  have hrelease : tryRecv .release largestLength = .error .capacity := by rfl
  refine ⟨by decide, hdev, hrelease, fun hguard => ?_, fun hguard => ?_⟩
  · have hok := hguard.rejected (by decide)
    rw [hdev] at hok
    cases hok
  · have hok := hguard.rejected (by decide)
    rw [hrelease] at hok
    cases hok

end PgNats.RingQueue
