import PgNats.Lib.Cyclic
import PgNats.RingQueue.Basic

/-!
# What one call does to the stored records

`Represents q ms` says that the queue holds exactly the messages `ms`: the bytes from the read index
on, taken cyclically, start with their records, and the write index is right behind them. It allows
a read index equal to `CAPACITY`, which `try_recv` leaves behind when it empties a record that ends
at the end of a full buffer; such an index reads as zero everywhere but in the fullness test.

`trySend_error`, `trySend_ok`, `tryRecv_nil`, and `tryRecv_cons` are the calls on a represented
queue. They meet the FIFO contract except in two situations, which `Sound` excludes. A full queue
whose oldest record runs past the end of the buffer makes `try_recv` panic (`tryRecv_panics`), since
a full queue has `write >= read` and that branch reads contiguously. And a message that fills the
queue exactly while the read index is `CAPACITY` leaves the write index at zero, so that the queue
counts as empty (`represents_sent`).
-/

namespace PgNats.RingQueue

open Rust (Panic Profile slice copyInto zeroed toLeBytes fromLeBytes usizeRange isizeMax)
open Cyclic (Wrote)

variable {CAPACITY : ℕ}

/-- The record of a message: its length, then its bytes. -/
def record (msg : List UInt8) : List UInt8 := toLeBytes HEADER_SIZE msg.length ++ msg

/-- The records of the pending messages, the oldest first. -/
def encode (ms : List (List UInt8)) : List UInt8 := ms.flatMap record

/-- A record is a header and the message. -/
@[simp] theorem length_record (msg : List UInt8) :
    (record msg).length = HEADER_SIZE + msg.length := by
  simp [record]

@[simp] theorem encode_nil : encode [] = [] := rfl

@[simp] theorem encode_cons (m : List UInt8) (ms : List (List UInt8)) :
    encode (m :: ms) = record m ++ encode ms := rfl

@[simp] theorem encode_append (ms ms' : List (List UInt8)) :
    encode (ms ++ ms') = encode ms ++ encode ms' :=
  List.flatMap_append

/-- The stored bytes are what the abstract queue counts. -/
theorem length_encode (ms : List (List UInt8)) :
    (encode ms).length = Fifo.cost HEADER_SIZE ms := by
  induction ms with
  | nil => rfl
  | cons m ms ih => rw [encode_cons, List.length_append, length_record, ih, Fifo.cost_cons]

/-- A position in the buffer counts modulo the capacity. -/
theorem rotate_mod_capacity (buffer : List.Vector UInt8 CAPACITY) (pos : ℕ) :
    buffer.toList.rotate (pos % CAPACITY) = buffer.toList.rotate pos := by
  have h := List.rotate_mod buffer.toList pos
  rwa [List.Vector.toList_length] at h

/-- The end of the buffer is its start. -/
theorem rotate_capacity (buffer : List.Vector UInt8 CAPACITY) :
    buffer.toList.rotate CAPACITY = buffer.toList := by
  have h := List.rotate_length buffer.toList
  rwa [List.Vector.toList_length] at h

/-- The queue holds exactly the messages `ms`. -/
structure Represents (q : RingQueue CAPACITY) (ms : List (List UInt8)) : Prop where
  /-- The read index is in the buffer or at its end. -/
  read_le : q.read ≤ CAPACITY
  /-- The write index is in the buffer. -/
  write_lt : q.write < CAPACITY
  /-- The write index is right behind the records. -/
  write_eq : q.write = (q.read + (encode ms).length) % CAPACITY
  /-- The flag is set exactly when the records fill the buffer. -/
  full_iff : q.is_full = true ↔ (encode ms).length = CAPACITY
  /-- A full queue has its read index in the buffer. -/
  read_lt_of_full : q.is_full = true → q.read < CAPACITY
  /-- The bytes from the read index on start with the records. -/
  content : encode ms <+: q.buffer.toList.rotate q.read
  /-- While the read index is at the end of the buffer, the bytes at its start are a header. -/
  stale : q.read = CAPACITY →
    HEADER_SIZE + fromLeBytes (q.buffer.toList.take HEADER_SIZE) ≤ CAPACITY

/-- The length in the header at the read index. -/
def headLen (q : RingQueue CAPACITY) : ℕ :=
  fromLeBytes ((q.buffer.toList.rotate q.read).take HEADER_SIZE)

/-- What a call needs of the queue to meet the FIFO contract. A message that fills the queue exactly
is not sent while the read index is at the end of the buffer, and a full queue is read only while
its oldest record ends in the buffer. -/
def Sound (q : RingQueue CAPACITY) : Fifo.Op UInt8 → Prop
  | .send msg => ¬ (q.read = CAPACITY ∧ q.write + (HEADER_SIZE + msg.length) = CAPACITY)
  | .recv => q.is_full = true → q.read + (HEADER_SIZE + q.headLen) ≤ CAPACITY

instance (q : RingQueue CAPACITY) : ∀ op, Decidable (Sound q op)
  | .send _ => inferInstanceAs (Decidable (¬ _))
  | .recv => inferInstanceAs (Decidable (_ → _))

/-- The bytes in use, as `try_send` and `try_recv` compute them from the indices and the flag. -/
def usedLen (q : RingQueue CAPACITY) : ℕ :=
  if q.is_full then CAPACITY
  else if q.read ≤ q.write then q.write - q.read else CAPACITY - (q.read - q.write)

/-- The bytes in use of a queue that is not full, between the indices. -/
theorem usedLen_of_le {q : RingQueue CAPACITY} (hfull : q.is_full = false)
    (hle : q.read ≤ q.write) : q.usedLen = q.write - q.read := by
  unfold usedLen
  rw [hfull, if_neg Bool.false_ne_true, if_pos hle]

/-- The bytes in use of a queue that is not full, when they wrap past the end of the buffer. -/
theorem usedLen_of_lt {q : RingQueue CAPACITY} (hfull : q.is_full = false)
    (hlt : q.write < q.read) : q.usedLen = CAPACITY - (q.read - q.write) := by
  unfold usedLen
  rw [hfull, if_neg Bool.false_ne_true, if_neg (by omega)]

/-- A queue that holds `ms` has no more bytes of records than its buffer. -/
theorem Represents.length_le {q : RingQueue CAPACITY} {ms : List (List UInt8)}
    (h : Represents q ms) : (encode ms).length ≤ CAPACITY := by
  simpa using h.content.length_le

/-- The bytes in use are those of the records. -/
theorem Represents.usedLen_eq {q : RingQueue CAPACITY} {ms : List (List UInt8)}
    (h : Represents q ms) : q.usedLen = (encode ms).length := by
  have hle := h.length_le
  have hw := h.write_eq
  have hr := h.read_le
  unfold usedLen
  cases hfull : q.is_full with
  | true => simpa using (h.full_iff.mp hfull).symm
  | false =>
    have hne : (encode ms).length ≠ CAPACITY := fun he => by simp [h.full_iff.mpr he] at hfull
    rw [if_neg Bool.false_ne_true]
    -- The records end before the end of the buffer, or wrap past it once.
    rcases lt_or_ge (q.read + (encode ms).length) CAPACITY with hin | hout
    · rw [Nat.mod_eq_of_lt hin] at hw
      rw [if_pos (by omega)]
      omega
    · rw [Nat.mod_eq_sub_mod hout, Nat.mod_eq_of_lt (by omega)] at hw
      rw [if_neg (by omega)]
      omega

/-- A queue with free bytes does not count as full. -/
theorem Represents.not_full {q : RingQueue CAPACITY} {ms : List (List UInt8)}
    (h : Represents q ms) (hlt : (encode ms).length < CAPACITY) : q.is_full = false := by
  apply Bool.eq_false_iff.mpr
  intro hfull
  exact hlt.ne (h.full_iff.mp hfull)

/-- The empty queue. -/
theorem represents_new (hcap : HEADER_SIZE ≤ CAPACITY) :
    Represents (new : RingQueue CAPACITY) [] where
  read_le := Nat.zero_le _
  write_lt := by simp only [new, HEADER_SIZE] at *; omega
  write_eq := by simp [new]
  full_iff := by simp only [new, HEADER_SIZE, encode_nil, List.length_nil] at *; simp; omega
  read_lt_of_full := by simp [new]
  content := List.nil_prefix
  stale := fun h => by simp only [new, HEADER_SIZE] at *; omega

/-! ## The copies -/

/-- Either form of the copy in `try_send` writes the data cyclically. -/
theorem copyWrapping_eq (p : Profile) (buffer : List.Vector UInt8 CAPACITY) (pos : ℕ)
    (data : List UInt8) (hmax : CAPACITY ≤ isizeMax) (hpos : pos ≤ CAPACITY)
    (hdata : data.length ≤ CAPACITY) :
    ∃ v, copyWrapping p buffer pos data = .ok v ∧ Wrote buffer.toList pos data v.toList := by
  unfold copyWrapping
  rw [Rust.sub_ok hpos, Rust.ok_bind]
  rcases le_or_gt data.length (CAPACITY - pos) with hfit | hwrap
  · obtain ⟨v, hv, hl⟩ := Rust.copyInto_ok buffer (Nat.le_add_right pos data.length) (by omega)
      (show data.length = pos + data.length - pos by omega)
    refine ⟨v, ?_, hl ▸ Wrote.contiguous (by simp; omega)⟩
    rw [if_pos hfit, Rust.add_ok (Rust.lt_usizeRange hmax (by omega)),
      Rust.ok_bind, hv]
  · have hs1 : slice data 0 (CAPACITY - pos) = .ok (data.take (CAPACITY - pos)) := by
      rw [Rust.slice_ok (Nat.zero_le _) (by omega), List.drop_zero, Nat.sub_zero]
    have hs2 : slice data (CAPACITY - pos) data.length = .ok (data.drop (CAPACITY - pos)) := by
      rw [Rust.slice_ok (by omega) le_rfl, List.take_of_length_le (by simp)]
    obtain ⟨v, hv, hl⟩ := Rust.copyInto_ok buffer hpos le_rfl
      (show (data.take (CAPACITY - pos)).length = CAPACITY - pos by simp; omega)
    obtain ⟨w, hw, hl'⟩ := Rust.copyInto_ok v (Nat.zero_le (data.length - (CAPACITY - pos)))
      (by omega) (show (data.drop (CAPACITY - pos)).length = data.length - (CAPACITY - pos) - 0 by
        simp)
    refine ⟨w, ?_, ?_⟩
    · rw [if_neg (by omega), hs1, Rust.ok_bind, hv, Rust.ok_bind, hs2, Rust.sub_ok hwrap.le,
        Rust.ok_bind, Rust.ok_bind, hw]
    · have hgone : buffer.toList.drop CAPACITY = [] := List.drop_eq_nil_of_le (by simp)
      rw [hl', hl, hgone, List.append_nil, List.take_zero, List.nil_append,
        List.drop_append_of_le_length (by simp; omega), ← List.append_assoc]
      exact Wrote.wrapped (by simp; omega) hwrap.le (by simp; omega)

/-- The copy of a range that ends in the buffer, as the other branch of `try_send` makes it. -/
theorem copyInto_eq (buffer : List.Vector UInt8 CAPACITY) (pos : ℕ) (data : List UInt8)
    (h : pos + data.length ≤ CAPACITY) :
    ∃ v, copyInto buffer pos (pos + data.length) data = .ok v ∧
      Wrote buffer.toList pos data v.toList := by
  have hlen : data.length = pos + data.length - pos := by omega
  obtain ⟨v, hv, hl⟩ := Rust.copyInto_ok buffer (Nat.le_add_right pos data.length) h hlen
  refine ⟨v, hv, ?_⟩
  rw [hl]
  apply Wrote.contiguous
  simpa using h

/-- The copy of `len` bytes that end in the buffer, as both branches of `try_recv` make it. -/
theorem copyOut_eq (buffer : List.Vector UInt8 CAPACITY) (pos : ℕ) {len : ℕ}
    (dst : List.Vector UInt8 len) (h : pos + len ≤ CAPACITY) :
    slice buffer.toList pos (pos + len) = .ok ((buffer.toList.rotate pos).take len) ∧
      ∃ v, copyInto dst 0 len ((buffer.toList.rotate pos).take len) = .ok v ∧
        v.toList = (buffer.toList.rotate pos).take len := by
  refine ⟨?_, Rust.copyInto_all dst (by simp; omega)⟩
  rw [Rust.slice_ok (by omega) (by simpa using h),
    Cyclic.take_rotate_contiguous (by simpa using h), Nat.add_sub_cancel_left]

/-- Either form of the copy in `try_recv` reads the bytes cyclically. -/
theorem readWrapping_eq (p : Profile) (buffer : List.Vector UInt8 CAPACITY) (pos : ℕ) {len : ℕ}
    (dst : List.Vector UInt8 len) (hmax : CAPACITY ≤ isizeMax) (hpos : pos ≤ CAPACITY)
    (hlen : len ≤ CAPACITY) :
    ∃ v, readWrapping p buffer pos len dst = .ok v ∧
      v.toList = (buffer.toList.rotate pos).take len := by
  unfold readWrapping
  rw [Rust.sub_ok hpos, Rust.ok_bind]
  rcases le_or_gt len (CAPACITY - pos) with hfit | hwrap
  · obtain ⟨hs, v, hv, hl⟩ := copyOut_eq buffer pos dst (by omega)
    refine ⟨v, ?_, hl⟩
    rw [if_pos hfit, Rust.add_ok (Rust.lt_usizeRange hmax (by omega)),
      Rust.ok_bind, hs, Rust.ok_bind, hv]
  · have hs1 : slice buffer.toList pos CAPACITY = .ok (buffer.toList.drop pos) := by
      rw [Rust.slice_ok hpos (by simp), List.take_of_length_le (by simp)]
    have hs2 : slice buffer.toList 0 (len - (CAPACITY - pos))
        = .ok (buffer.toList.take (len - (CAPACITY - pos))) := by
      rw [Rust.slice_ok (Nat.zero_le _) (by simp; omega), List.drop_zero, Nat.sub_zero]
    obtain ⟨v, hv, hl⟩ := Rust.copyInto_ok dst (Nat.zero_le (CAPACITY - pos)) (by omega)
      (show (buffer.toList.drop pos).length = CAPACITY - pos - 0 by simp)
    obtain ⟨w, hw, hl'⟩ := Rust.copyInto_ok v hwrap.le le_rfl
      (show (buffer.toList.take (len - (CAPACITY - pos))).length = len - (CAPACITY - pos) by
        simp; omega)
    refine ⟨w, ?_, ?_⟩
    · rw [if_neg (by omega), hs1, Rust.ok_bind, hv, Rust.ok_bind, Rust.sub_ok hwrap.le,
        Rust.ok_bind, hs2, Rust.ok_bind, hw]
    · have hgone : v.toList.drop len = [] := List.drop_eq_nil_of_le (by simp)
      rw [hl', hgone, List.append_nil, hl, List.take_zero, List.nil_append,
        List.take_left' (by simp),
        Cyclic.take_rotate_wrapped (by simpa using hpos) (by simp; omega) (by simpa using hlen)]
      simp

/-! ## `try_send` -/

section Send

variable {p : Profile} {q : RingQueue CAPACITY} {ms : List (List UInt8)} {msg : List UInt8}

/-- A message that does not fit is refused, and the queue is as before. -/
theorem trySend_error (hcap : HEADER_SIZE ≤ CAPACITY) (hmax : CAPACITY ≤ isizeMax)
    (h : Represents q ms) (hfit : ¬ Fifo.Fits HEADER_SIZE CAPACITY ms msg) :
    trySend p q msg = .ok (q, .error ()) := by
  have hu := h.usedLen_eq
  have hle := h.length_le
  have hr := h.read_le
  have hw := h.write_lt
  unfold Fifo.Fits at hfit
  rw [← length_encode] at hfit
  unfold trySend
  rw [Rust.sub_ok hcap]
  cases hfull : q.is_full with
  | true => rfl
  | false =>
    simp only [Bool.false_eq_true, if_false, Rust.ok_bind]
    rcases lt_or_ge (CAPACITY - HEADER_SIZE) msg.length with hbig | hsmall
    · rw [if_pos hbig, Rust.pure_eq_ok]
    · have hadd : HEADER_SIZE + msg.length < usizeRange := Rust.lt_usizeRange hmax (by omega)
      rw [if_neg (by omega), Rust.add_ok hadd, Rust.ok_bind]
      rcases le_or_gt q.read q.write with hle' | hgt
      · rw [usedLen_of_le hfull hle'] at hu
        rw [if_pos hle', Rust.sub_ok hle', Rust.ok_bind, Rust.sub_ok (by omega), Rust.ok_bind,
          if_pos (by omega), Rust.pure_eq_ok]
      · rw [usedLen_of_lt hfull hgt] at hu
        rw [if_neg (by omega), Rust.sub_ok hgt.le, Rust.ok_bind, if_pos (by omega),
          Rust.pure_eq_ok]

/-- A message that fits is stored right behind the records. -/
theorem trySend_ok (hcap : HEADER_SIZE ≤ CAPACITY) (hmax : CAPACITY ≤ isizeMax)
    (h : Represents q ms) (hfit : Fifo.Fits HEADER_SIZE CAPACITY ms msg) :
    ∃ q' : RingQueue CAPACITY, trySend p q msg = .ok (q', .ok ()) ∧ q'.read = q.read ∧
      q'.write = (q.write + (HEADER_SIZE + msg.length)) % CAPACITY ∧
      q'.is_full = decide (q'.write = q'.read) ∧
      Wrote q.buffer.toList q.write (record msg) q'.buffer.toList := by
  have hu := h.usedLen_eq
  have hle := h.length_le
  have hr := h.read_le
  have hw := h.write_lt
  have hlen : (toLeBytes HEADER_SIZE msg.length).length = HEADER_SIZE :=
    Rust.length_toLeBytes _ _
  unfold Fifo.Fits at hfit
  rw [← length_encode] at hfit
  have hnfull : q.is_full = false := h.not_full (by unfold HEADER_SIZE at hfit; omega)
  have hadd1 : HEADER_SIZE + msg.length < usizeRange := Rust.lt_usizeRange hmax (by omega)
  have hadd2 : q.write + HEADER_SIZE < usizeRange := Rust.lt_usizeRange hmax (by omega)
  have hadd3 : q.write + (HEADER_SIZE + msg.length) < usizeRange :=
    Rust.lt_usizeRange hmax (by omega)
  -- Both branches store a header and a message that together are the record.
  have hcommit : ∀ v : List.Vector UInt8 CAPACITY,
      Wrote q.buffer.toList q.write (record msg) v.toList →
      ∃ q' : RingQueue CAPACITY, commit p q v (HEADER_SIZE + msg.length) = .ok (q', .ok ()) ∧
        q'.read = q.read ∧ q'.write = (q.write + (HEADER_SIZE + msg.length)) % CAPACITY ∧
        q'.is_full = decide (q'.write = q'.read) ∧
        Wrote q.buffer.toList q.write (record msg) q'.buffer.toList := by
    intro v hv
    unfold commit
    rw [Rust.add_ok hadd3]
    exact ⟨_, rfl, rfl, rfl, rfl, hv⟩
  unfold trySend
  simp only [hnfull, Bool.false_eq_true, if_false]
  rw [Rust.sub_ok hcap, Rust.ok_bind, if_neg (by omega), Rust.add_ok hadd1, Rust.ok_bind]
  rcases le_or_gt q.read q.write with hle' | hgt
  · -- The header and the message may each wrap past the end of the buffer.
    rw [usedLen_of_le hnfull hle'] at hu
    rw [if_pos hle', Rust.sub_ok hle', Rust.ok_bind, Rust.sub_ok (by omega), Rust.ok_bind,
      if_neg (by omega), Rust.add_ok hadd2, Rust.ok_bind]
    obtain ⟨v, hv, hwv⟩ := copyWrapping_eq p q.buffer q.write
      (toLeBytes HEADER_SIZE msg.length) hmax hw.le (by omega)
    obtain ⟨w, hw', hww⟩ := copyWrapping_eq p v ((q.write + HEADER_SIZE) % CAPACITY) msg
      hmax (Nat.mod_lt _ (by omega)).le (by omega)
    rw [hv, Rust.ok_bind, hw', Rust.ok_bind]
    apply hcommit
    apply hwv.append hww
    · rw [hlen, List.Vector.toList_length]
    · rw [hlen, List.Vector.toList_length]; omega
  · -- The free bytes lie between the indices, and nothing wraps.
    rw [usedLen_of_lt hnfull hgt] at hu
    rw [if_neg (by omega), Rust.sub_ok hgt.le, Rust.ok_bind, if_neg (by omega),
      Rust.add_ok hadd2, Rust.ok_bind]
    obtain ⟨v, hv, hwv⟩ := copyInto_eq q.buffer q.write
      (toLeBytes HEADER_SIZE msg.length) (by omega)
    obtain ⟨w, hw', hww⟩ := copyInto_eq v (q.write + HEADER_SIZE) msg (by omega)
    rw [hlen] at hv
    rw [hv, Rust.ok_bind, Rust.add_ok (Rust.lt_usizeRange hmax (by omega)), Rust.ok_bind, hw',
      Rust.ok_bind]
    apply hcommit
    -- The message may start at the very end of the buffer, when it is empty.
    have hnext := hww.mod_pos
    rw [List.Vector.toList_length] at hnext
    apply hwv.append hnext
    · rw [hlen, List.Vector.toList_length]
    · rw [hlen, List.Vector.toList_length]; omega

/-- After a move by `u` bytes, a write index that was in the buffer is at the read index exactly
when the move is one whole turn. -/
theorem add_mod_eq_self_iff {r u : ℕ} (hr : r ≤ CAPACITY) (hu : 0 < u) (huC : u ≤ CAPACITY) :
    (r + u) % CAPACITY = r ↔ u = CAPACITY ∧ r < CAPACITY := by
  rcases lt_or_ge (r + u) CAPACITY with hin | hout
  · rw [Nat.mod_eq_of_lt hin]
    omega
  · rcases eq_or_lt_of_le hr with hend | hlt
    · have hlt' : (r + u) % CAPACITY < CAPACITY := Nat.mod_lt _ (by omega)
      omega
    · rw [Nat.mod_eq_sub_mod hout, Nat.mod_eq_of_lt (by omega)]
      omega

/-- The record at the start of the stored bytes shows its message's length in its header. -/
theorem fromLeBytes_of_record {l t : List UInt8} {m : List UInt8} (hl : l.length ≤ isizeMax)
    (h : record m ++ t <+: l) :
    fromLeBytes (l.take HEADER_SIZE) = m.length ∧ HEADER_SIZE + m.length ≤ l.length := by
  have hlen := h.length_le
  rw [List.length_append, length_record] at hlen
  obtain ⟨rest, hrest⟩ := h
  have htake : l.take HEADER_SIZE = toLeBytes HEADER_SIZE m.length := by
    rw [← hrest, record, List.append_assoc, List.append_assoc,
      List.take_left' (Rust.length_toLeBytes _ _)]
  have hsmall : m.length < 256 ^ HEADER_SIZE := by
    unfold isizeMax at hl
    unfold HEADER_SIZE at *
    omega
  exact ⟨by rw [htake, Rust.fromLeBytes_toLeBytes _ _ hsmall], by omega⟩

/-- A read index at the end of the buffer sees the first record at the start, with its header. -/
theorem stale_of_prefix {buffer : List.Vector UInt8 CAPACITY} {m : List UInt8}
    {ms : List (List UInt8)} (hmax : CAPACITY ≤ isizeMax)
    (h : encode (m :: ms) <+: buffer.toList.rotate CAPACITY) :
    HEADER_SIZE + fromLeBytes (buffer.toList.take HEADER_SIZE) ≤ CAPACITY := by
  rw [rotate_capacity, encode_cons] at h
  obtain ⟨hlen, hle⟩ := fromLeBytes_of_record (by simpa using hmax) h
  rw [hlen]
  simpa using hle

/-- What a queue with the record of `msg` stored behind `ms` holds: all of them, unless the record
filled the queue exactly while the read index was at the end of the buffer. -/
theorem represents_sent (hmax : CAPACITY ≤ isizeMax) (h : Represents q ms)
    (hfit : Fifo.Fits HEADER_SIZE CAPACITY ms msg) {q' : RingQueue CAPACITY}
    (hread : q'.read = q.read)
    (hwrite : q'.write = (q.write + (HEADER_SIZE + msg.length)) % CAPACITY)
    (hfull : q'.is_full = decide (q'.write = q'.read))
    (hbuf : Wrote q.buffer.toList q.write (record msg) q'.buffer.toList) :
    Represents q' (if Sound q (.send msg) then ms ++ [msg] else []) := by
  have hr := h.read_le
  have hpos : 0 < CAPACITY := Nat.lt_of_le_of_lt (Nat.zero_le _) h.write_lt
  unfold Fifo.Fits at hfit
  rw [← length_encode] at hfit
  have hlen : (encode (ms ++ [msg])).length = (encode ms).length + (HEADER_SIZE + msg.length) := by
    simp
  have hsum : q'.write = (q.read + (encode (ms ++ [msg])).length) % CAPACITY := by
    rw [hwrite, h.write_eq, Nat.mod_add_mod, hlen, Nat.add_assoc]
  have hcontent : encode (ms ++ [msg]) <+: q'.buffer.toList.rotate q.read := by
    rw [encode_append, encode_cons, encode_nil, List.append_nil]
    apply Cyclic.prefix_append_of_wrote h.content _ hbuf
    · rw [length_record, List.Vector.toList_length]; exact hfit
    · rw [List.Vector.toList_length]; exact h.write_eq
  have hwlt : q'.write < CAPACITY := by rw [hwrite]; exact Nat.mod_lt _ hpos
  have hstale : q'.read = CAPACITY →
      HEADER_SIZE + fromLeBytes (q'.buffer.toList.take HEADER_SIZE) ≤ CAPACITY := by
    intro hend
    obtain ⟨m, ms', hms⟩ := List.exists_cons_of_ne_nil (show ms ++ [msg] ≠ [] by simp)
    rw [← hread, hend, hms] at hcontent
    exact stale_of_prefix hmax hcontent
  have hfulliff := add_mod_eq_self_iff hr (show 0 < (encode (ms ++ [msg])).length by
    unfold HEADER_SIZE at hlen; omega) (by omega)
  rw [← hsum, ← hread] at hfulliff
  split_ifs with hs
  · have hend : (encode (ms ++ [msg])).length = CAPACITY → q'.read < CAPACITY := by
      intro hC
      rw [hread]
      apply lt_of_le_of_ne hr
      intro hend
      have hw0 := h.write_eq
      rw [hend, Nat.add_mod_left, Nat.mod_eq_of_lt (by unfold HEADER_SIZE at hlen; omega)] at hw0
      exact hs ⟨hend, by omega⟩
    exact {
      read_le := by rw [hread]; exact hr
      write_lt := hwlt
      write_eq := by rw [hread]; exact hsum
      full_iff := by
        rw [hfull, decide_eq_true_iff, hfulliff]
        exact ⟨fun hf => hf.1, fun hC => ⟨hC, hend hC⟩⟩
      read_lt_of_full := by
        intro hf
        rw [hfull, decide_eq_true_iff] at hf
        exact hf ▸ hwlt
      content := by rw [hread]; exact hcontent
      stale := hstale }
  · obtain ⟨hend, hfill⟩ := not_not.mp hs
    have hw0 : q'.write = 0 := by rw [hwrite, hfill, Nat.mod_self]
    exact {
      read_le := by rw [hread]; exact hr
      write_lt := hwlt
      write_eq := by rw [hw0, hread, hend]; simp
      full_iff := by
        rw [hfull, decide_eq_true_iff, hw0, hread, hend, encode_nil, List.length_nil]
      read_lt_of_full := by
        intro hf
        rw [hfull, decide_eq_true_iff, hw0] at hf
        omega
      content := List.nil_prefix
      stale := hstale }

end Send

/-! ## `try_recv` -/

section Recv

variable {p : Profile} {q : RingQueue CAPACITY}

/-- The guard lets a record through that lies in the used bytes. -/
theorem corrupted_false {is_full : Bool} {used : Except Panic ℕ} {u len : ℕ}
    (hused : is_full = false → used = .ok u) (h : is_full = false → HEADER_SIZE + len ≤ u)
    (hadd : HEADER_SIZE + len < usizeRange) : corrupted p is_full used len = .ok false := by
  unfold corrupted
  cases is_full with
  | true => rfl
  | false =>
    rw [hused rfl, Rust.add_ok hadd]
    simp [h rfl]

/-- The oldest record ends in the buffer when the write index is not below the read index: it lies
in the used bytes, or `Sound` says so of a full queue. -/
theorem end_le_capacity (hle : q.read ≤ q.write) (hwrite : q.write < CAPACITY)
    (hlen : HEADER_SIZE + q.headLen ≤ q.usedLen) (hsound : Sound q .recv) :
    q.read + (HEADER_SIZE + q.headLen) ≤ CAPACITY := by
  cases hf : q.is_full with
  | true => exact hsound hf
  | false =>
    rw [usedLen_of_le hf hle] at hlen
    omega

/-- `try_recv` on any bytes, when the record that the head's length announces lies in the used
bytes and, in a full queue, ends in the buffer. The message is the bytes behind the header, and the
read index moves past it. -/
theorem tryRecv_eq (hmax : CAPACITY ≤ isizeMax) (hread : q.read ≤ CAPACITY)
    (hwrite : q.write < CAPACITY) (hfull : q.is_full = true → q.read = q.write)
    (hlen : HEADER_SIZE + q.headLen ≤ q.usedLen) (hsound : Sound q .recv) :
    tryRecv p q = .ok ({ q with
        read := if q.read ≤ q.write then q.read + (HEADER_SIZE + q.headLen)
          else (q.read + (HEADER_SIZE + q.headLen)) % CAPACITY
        is_full := false },
      some (((q.buffer.toList.rotate q.read).drop HEADER_SIZE).take q.headLen)) := by
  have hused : q.usedLen ≤ CAPACITY := by
    unfold usedLen
    split_ifs <;> omega
  have hH : HEADER_SIZE = 8 := rfl
  have hadd1 : q.read + HEADER_SIZE < usizeRange := Rust.lt_usizeRange hmax (by omega)
  have hadd2 : HEADER_SIZE + q.headLen < usizeRange := Rust.lt_usizeRange hmax (by omega)
  have hadd3 : q.read + HEADER_SIZE + q.headLen < usizeRange :=
    Rust.lt_usizeRange hmax (by omega)
  have hpayload : ((q.buffer.toList.rotate q.read).drop HEADER_SIZE).take q.headLen
      = (q.buffer.toList.rotate (q.read + HEADER_SIZE)).take q.headLen := by
    rw [← List.rotate_rotate, List.rotate_eq_drop_append_take (n := HEADER_SIZE) (by simp; omega),
      List.take_append_of_le_length (by simp; omega)]
  unfold tryRecv
  rw [Rust.add_ok hadd1, Rust.ok_bind]
  have hnonempty : ¬ (q.read = q.write ∧ ¬ q.is_full = true) := by
    rintro ⟨heq, hnf⟩
    rw [usedLen_of_le (Bool.eq_false_iff.mpr hnf) heq.le] at hlen
    omega
  rw [if_neg hnonempty, hpayload]
  rcases le_or_gt q.read q.write with hle | hgt
  · -- The record lies before the end of the buffer.
    have hin := end_le_capacity hle hwrite hlen hsound
    obtain ⟨hs1, v, hv, hvl⟩ := copyOut_eq q.buffer q.read
      (List.Vector.replicate HEADER_SIZE 0) (by omega)
    have hhead : fromLeBytes v.toList = q.headLen := by rw [hvl]; rfl
    have hguard : corrupted p q.is_full (Rust.sub p q.write q.read) q.headLen = .ok false := by
      apply corrupted_false (fun _ => Rust.sub_ok hle) _ hadd2
      intro hf
      rwa [usedLen_of_le hf hle] at hlen
    obtain ⟨hs2, w, hw, hwl⟩ := copyOut_eq q.buffer (q.read + HEADER_SIZE)
      (List.Vector.replicate q.headLen 0) (by omega)
    rw [if_pos hle, hs1, Rust.ok_bind, hv, Rust.ok_bind, hhead]
    dsimp only
    rw [hguard, Rust.ok_bind, if_neg Bool.false_ne_true, Rust.zeroed_ok (by omega), Rust.ok_bind,
      Rust.add_ok hadd3, Rust.ok_bind, hs2, Rust.ok_bind, hw, Rust.ok_bind, Rust.pure_eq_ok, hwl,
      if_pos hle, Nat.add_assoc]
  · -- The record may wrap past the end of the buffer, and the queue is not full.
    have hnf : q.is_full = false := by
      apply Bool.eq_false_iff.mpr
      intro hf
      have := hfull hf
      omega
    obtain ⟨v, hv, hvl⟩ := readWrapping_eq p q.buffer q.read
      (List.Vector.replicate HEADER_SIZE 0) hmax hread (show HEADER_SIZE ≤ CAPACITY by omega)
    have hhead : fromLeBytes v.toList = q.headLen := by rw [hvl]; rfl
    have hguard : corrupted p q.is_full
        (do Rust.sub p CAPACITY (← Rust.sub p q.read q.write)) q.headLen = .ok false := by
      rw [Rust.sub_ok hgt.le, Rust.ok_bind]
      apply corrupted_false (fun _ => Rust.sub_ok (by omega)) _ hadd2
      intro hf
      rwa [usedLen_of_lt hf hgt] at hlen
    obtain ⟨w, hw, hwl⟩ := readWrapping_eq p q.buffer ((q.read + HEADER_SIZE) % CAPACITY)
      (List.Vector.replicate q.headLen 0) hmax (Nat.mod_lt _ (by omega)).le
      (show q.headLen ≤ CAPACITY by omega)
    rw [if_neg (by omega), hv, Rust.ok_bind, hhead]
    dsimp only
    rw [hguard, Rust.ok_bind, if_neg Bool.false_ne_true, Rust.zeroed_ok (by omega), Rust.ok_bind,
      hw, Rust.ok_bind, Rust.ok_bind, Rust.add_ok hadd3, Rust.ok_bind, Rust.pure_eq_ok, hwl,
      rotate_mod_capacity, if_neg (by omega), Nat.add_assoc]

/-- A full queue has equal indices. -/
theorem Represents.read_eq_write {ms : List (List UInt8)} (h : Represents q ms)
    (hfull : q.is_full = true) : q.read = q.write := by
  rw [h.write_eq, h.full_iff.mp hfull, Nat.add_mod_right,
    Nat.mod_eq_of_lt (h.read_lt_of_full hfull)]

/-- The head's length is the length of the oldest message. -/
theorem Represents.headLen_eq {m : List UInt8} {ms : List (List UInt8)}
    (hmax : CAPACITY ≤ isizeMax) (h : Represents q (m :: ms)) :
    q.headLen = m.length ∧ HEADER_SIZE + m.length ≤ CAPACITY := by
  have hcontent := h.content
  rw [encode_cons] at hcontent
  obtain ⟨hhead, hle⟩ := fromLeBytes_of_record (by simpa using hmax) hcontent
  exact ⟨hhead, by simpa using hle⟩

/-- Nothing is received from an empty queue, and the queue is as before. -/
theorem tryRecv_nil (hcap : HEADER_SIZE ≤ CAPACITY) (hmax : CAPACITY ≤ isizeMax)
    (h : Represents q []) : tryRecv p q = .ok (q, none) := by
  have hH : HEADER_SIZE = 8 := rfl
  have hr := h.read_le
  have hw := h.write_eq
  rw [encode_nil, List.length_nil, Nat.add_zero] at hw
  have hnf : q.is_full = false := h.not_full (by rw [encode_nil, List.length_nil]; omega)
  unfold tryRecv
  rw [Rust.add_ok (Rust.lt_usizeRange hmax (by omega)), Rust.ok_bind]
  rcases eq_or_lt_of_le hr with hend | hlt
  · -- The stale header at the start of the buffer is read, and the guard drops it.
    have hw0 : q.write = 0 := by rw [hw, hend, Nat.mod_self]
    have hstale := h.stale hend
    obtain ⟨v, hv, hvl⟩ := readWrapping_eq p q.buffer q.read (List.Vector.replicate HEADER_SIZE 0)
      hmax hr hcap
    have hrot : q.buffer.toList.rotate q.read = q.buffer.toList := by
      rw [hend]
      exact rotate_capacity _
    rw [hrot] at hvl
    rw [if_neg (by rw [hw0]; omega), if_neg (by omega), hv, Rust.ok_bind, hvl]
    dsimp only
    unfold corrupted
    rw [hnf, if_neg Bool.false_ne_true, Rust.sub_ok (by omega), Rust.ok_bind,
      Rust.sub_ok (by omega), Rust.ok_bind,
      Rust.add_ok (Rust.lt_usizeRange hmax (by omega)), Rust.ok_bind,
      Rust.pure_eq_ok, Rust.ok_bind, if_pos (by rw [decide_eq_true_iff]; omega), Rust.pure_eq_ok]
  · have heq : q.read = q.write := by rw [hw, Nat.mod_eq_of_lt hlt]
    rw [if_pos ⟨heq, by rw [hnf]; exact Bool.false_ne_true⟩, Rust.pure_eq_ok]

/-- The oldest message is received byte for byte, and the others are left. -/
theorem tryRecv_cons {m : List UInt8} {ms : List (List UInt8)} (hmax : CAPACITY ≤ isizeMax)
    (h : Represents q (m :: ms)) (hsound : Sound q .recv) :
    ∃ q' : RingQueue CAPACITY, tryRecv p q = .ok (q', some m) ∧ Represents q' ms := by
  have hH : HEADER_SIZE = 8 := rfl
  have hr := h.read_le
  have hw := h.write_lt
  have hle := h.length_le
  have hused := h.usedLen_eq
  have hcontent := h.content
  have hlen : (encode (m :: ms)).length = HEADER_SIZE + m.length + (encode ms).length := by simp
  obtain ⟨hhead, hm⟩ := h.headLen_eq hmax
  have hin : HEADER_SIZE + q.headLen ≤ q.usedLen := by rw [hhead, hused]; omega
  have hrecv := tryRecv_eq (p := p) hmax hr hw h.read_eq_write hin hsound
  have hpayload : ((q.buffer.toList.rotate q.read).drop HEADER_SIZE).take q.headLen = m := by
    obtain ⟨free, hfree⟩ := hcontent
    rw [← hfree, encode_cons, record, List.append_assoc, List.append_assoc,
      List.drop_left' (Rust.length_toLeBytes _ _), hhead, List.take_left' rfl]
  have hrest : encode ms <+: q.buffer.toList.rotate (q.read + (HEADER_SIZE + m.length)) := by
    rw [encode_cons] at hcontent
    rw [← length_record]
    exact Cyclic.prefix_of_prefix_append hcontent
  have hweq : q.write = (q.read + (HEADER_SIZE + m.length) + (encode ms).length) % CAPACITY := by
    rw [h.write_eq, hlen, Nat.add_assoc, Nat.add_assoc, Nat.add_assoc]
  rw [hpayload, hhead] at hrecv
  refine ⟨_, hrecv, ?_⟩
  rcases le_or_gt q.read q.write with hrw | hwr
  · have hend := end_le_capacity hrw hw hin hsound
    rw [hhead] at hend
    simp only [if_pos hrw]
    exact {
      read_le := hend
      write_lt := hw
      write_eq := hweq
      full_iff := by
        refine ⟨fun hf => absurd hf Bool.false_ne_true, fun hC => ?_⟩
        omega
      read_lt_of_full := fun hf => absurd hf Bool.false_ne_true
      content := hrest
      stale := by
        intro hend
        dsimp only at hend ⊢
        -- The start of the buffer holds the next record, or the one just read.
        cases ms with
        | nil =>
          have hread0 : q.read = 0 := by
            rw [hend, encode_nil, List.length_nil, Nat.add_zero, Nat.mod_self] at hweq
            omega
          unfold headLen at hhead
          rw [hread0, List.rotate_zero] at hhead
          rw [hhead]
          exact hm
        | cons m' ms' =>
          rw [hend] at hrest
          exact stale_of_prefix hmax hrest }
  · simp only [if_neg (show ¬ q.read ≤ q.write by omega)]
    have hpos : 0 < CAPACITY := by omega
    exact {
      read_le := (Nat.mod_lt _ hpos).le
      write_lt := hw
      write_eq := by rw [hweq, Nat.mod_add_mod]
      full_iff := by
        refine ⟨fun hf => absurd hf Bool.false_ne_true, fun hC => ?_⟩
        omega
      read_lt_of_full := fun hf => absurd hf Bool.false_ne_true
      content := by rw [rotate_mod_capacity]; exact hrest
      stale := by
        intro hend
        have := Nat.mod_lt (q.read + (HEADER_SIZE + m.length)) hpos
        dsimp only at hend
        omega }

/-- A full queue whose oldest record runs past the end of the buffer makes `try_recv` panic: the
range of the header, or of the message behind it, leaves the buffer. -/
theorem tryRecv_panics (hmax : CAPACITY ≤ isizeMax) (hread : q.read < CAPACITY)
    (heq : q.read = q.write) (hlen : q.headLen ≤ isizeMax) (hsound : ¬ Sound q .recv) :
    tryRecv p q = .error .sliceRange := by
  obtain ⟨hfull, hout⟩ : q.is_full = true ∧ ¬ q.read + (HEADER_SIZE + q.headLen) ≤ CAPACITY := by
    simpa [Sound] using hsound
  have hH : HEADER_SIZE = 8 := rfl
  have hadd1 : q.read + HEADER_SIZE < usizeRange := by
    unfold usizeRange; unfold isizeMax at hmax; omega
  unfold tryRecv
  rw [Rust.add_ok hadd1, Rust.ok_bind, if_neg (by simp [hfull]), if_pos heq.le]
  rcases le_or_gt (q.read + HEADER_SIZE) CAPACITY with hin | hwrap
  · obtain ⟨hs1, v, hv, hvl⟩ := copyOut_eq q.buffer q.read
      (List.Vector.replicate HEADER_SIZE 0) hin
    have hhead : fromLeBytes v.toList = q.headLen := by rw [hvl]; rfl
    have hguard : corrupted p q.is_full (Rust.sub p q.write q.read) q.headLen = .ok false := by
      rw [hfull]; rfl
    rw [hs1, Rust.ok_bind, hv, Rust.ok_bind, hhead]
    dsimp only
    rw [hguard, Rust.ok_bind, if_neg Bool.false_ne_true, Rust.zeroed_ok hlen, Rust.ok_bind,
      Rust.add_ok (by unfold usizeRange; unfold isizeMax at *; omega), Rust.ok_bind,
      Rust.slice_error (by simp; omega), Rust.error_bind]
  · rw [Rust.slice_error (by simp; omega), Rust.error_bind]

end Recv

end PgNats.RingQueue
