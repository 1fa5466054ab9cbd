import PgNats.RingQueue.Refinement

/-!
# The contract of `try_send`

`Represents` in `Refinement` is the invariant that the calls keep, with a clause for the read index
that `try_recv` can leave at the end of the buffer. `Valid` says the same of a queue with its read
index in the buffer, in the terms of the fields only: the occupied bytes, counted from the indices
and the flag, end at the write index and are the records. The two agree (`valid_iff`), and
`trySend_contract` is what `try_send` does on a valid queue, whichever of its branches it takes.
-/

namespace PgNats.RingQueue

open Rust (Panic Profile isizeMax)

variable {CAPACITY : ℕ}

/-- The number of occupied bytes: all of them on a full queue, and otherwise the way from the read
index to the write index. -/
def occupied (q : RingQueue CAPACITY) : ℕ :=
  if q.is_full then CAPACITY else (q.write + CAPACITY - q.read) % CAPACITY

/-- The queue is a valid one for the messages `ms`. -/
structure Valid (q : RingQueue CAPACITY) (ms : List (List UInt8)) : Prop where
  /-- The read index is in the buffer. -/
  read_lt : q.read < CAPACITY
  /-- The write index is in the buffer. -/
  write_lt : q.write < CAPACITY
  /-- The occupied bytes lead from the read index to the write index. -/
  ends : (q.read + q.occupied) % CAPACITY = q.write % CAPACITY
  /-- The occupied bytes from the read index on, taken cyclically, are the records. -/
  content : (q.buffer.toList.rotate q.read).take q.occupied = encode ms

variable {q : RingQueue CAPACITY} {ms : List (List UInt8)}

/-- No more bytes are occupied than there are. -/
theorem occupied_le (hpos : 0 < CAPACITY) : q.occupied ≤ CAPACITY := by
  unfold occupied
  split
  · exact le_rfl
  · exact (Nat.mod_lt _ hpos).le

/-- Only a full queue has all its bytes occupied. -/
theorem occupied_eq_capacity (hpos : 0 < CAPACITY) :
    q.is_full = true ↔ q.occupied = CAPACITY := by
  unfold occupied
  constructor
  · exact fun hfull => if_pos hfull
  · intro heq
    by_contra hfull
    rw [if_neg hfull] at heq
    exact absurd heq (Nat.mod_lt _ hpos).ne

/-- With the read index in the buffer, both ways to count the occupied bytes agree. -/
theorem occupied_eq_usedLen (hread : q.read < CAPACITY) (hwrite : q.write < CAPACITY) :
    q.occupied = q.usedLen := by
  unfold occupied usedLen
  split
  · rfl
  · split
    · next hle =>
      have hsum : q.write + CAPACITY - q.read = q.write - q.read + CAPACITY := by omega
      rw [hsum, Nat.add_mod_right, Nat.mod_eq_of_lt (by omega)]
    · next hgt =>
      rw [Nat.mod_eq_of_lt (by omega)]
      omega

/-- The occupied bytes of a valid queue are as many as the bytes of the records. -/
theorem Valid.length_encode_eq (h : Valid q ms) : (encode ms).length = q.occupied := by
  have hpos : 0 < CAPACITY := Nat.lt_of_le_of_lt (Nat.zero_le _) h.read_lt
  have hle : q.occupied ≤ CAPACITY := occupied_le hpos
  rw [← h.content, List.length_take, List.length_rotate, List.Vector.toList_length]
  exact min_eq_left hle

/-- A valid queue is one that represents the messages, with its read index in the buffer. -/
theorem valid_iff : Valid q ms ↔ Represents q ms ∧ q.read < CAPACITY := by
  constructor
  · intro h
    have hpos : 0 < CAPACITY := Nat.lt_of_le_of_lt (Nat.zero_le _) h.read_lt
    have hlen := h.length_encode_eq
    refine ⟨⟨h.read_lt.le, h.write_lt, ?_, ?_, fun _ => h.read_lt, ?_, ?_⟩, h.read_lt⟩
    · rw [hlen, h.ends, Nat.mod_eq_of_lt h.write_lt]
    · rw [hlen]
      exact occupied_eq_capacity hpos
    · rw [← h.content]
      exact List.take_prefix _ _
    · exact fun hend => absurd hend h.read_lt.ne
  · rintro ⟨h, hread⟩
    have hu : q.occupied = (encode ms).length :=
      (occupied_eq_usedLen hread h.write_lt).trans h.usedLen_eq
    refine ⟨hread, h.write_lt, ?_, ?_⟩
    · rw [hu, ← h.write_eq, Nat.mod_eq_of_lt h.write_lt]
    · rw [hu]
      exact (List.prefix_iff_eq_take.mp h.content).symm

/-- On a valid queue `try_send` does not panic. It accepts a message exactly when the record fits
behind the occupied bytes, and then the queue is valid for the messages and this one. Otherwise it
refuses the message, and the queue is as before. -/
theorem trySend_contract (hcap : HEADER_SIZE ≤ CAPACITY) (hmax : CAPACITY ≤ isizeMax)
    (h : Valid q ms) (msg : List UInt8) (p : Profile) :
    (q.occupied + HEADER_SIZE + msg.length ≤ CAPACITY →
      ∃ q' : RingQueue CAPACITY, trySend p q msg = .ok (q', .ok ()) ∧ Valid q' (ms ++ [msg])) ∧
    (¬ q.occupied + HEADER_SIZE + msg.length ≤ CAPACITY →
      trySend p q msg = .ok (q, .error ())) := by
  obtain ⟨hrep, hread⟩ := valid_iff.mp h
  have hfits : q.occupied + HEADER_SIZE + msg.length ≤ CAPACITY ↔
      Fifo.Fits HEADER_SIZE CAPACITY ms msg := by
    unfold Fifo.Fits
    rw [← length_encode, h.length_encode_eq]
    omega
  constructor
  · intro hfit
    have hfit := hfits.mp hfit
    obtain ⟨q', hsend, hread', hwrite', hfull', hbuf'⟩ := trySend_ok (p := p) hcap hmax hrep hfit
    have hsound : Sound q (.send msg) := fun hend => absurd hend.1 hread.ne
    have hrep' := represents_sent hmax hrep hfit hread' hwrite' hfull' hbuf'
    rw [if_pos hsound] at hrep'
    exact ⟨q', hsend, valid_iff.mpr ⟨hrep', hread' ▸ hread⟩⟩
  · exact fun hfit => trySend_error hcap hmax hrep (mt hfits.mpr hfit)

/-- A queue with one record, of the bytes 7 and 8, behind which the next header wraps. -/
def recordNearEnd : RingQueue 24 where
  read := 10
  write := 20
  is_full := false
  buffer := ⟨[9, 9, 9, 9, 9, 9, 9, 9, 9, 9, 2, 0, 0, 0, 0, 0, 0, 0, 7, 8, 9, 9, 9, 9], rfl⟩

/-- It takes a message of four bytes. -/
theorem trySend_contract_wrapped :
    ∃ q' : RingQueue 24, trySend .dev recordNearEnd [1, 2, 3, 4] = .ok (q', .ok ()) ∧
      Valid q' ([[7, 8]] ++ [[1, 2, 3, 4]]) := by
  have hvalid : Valid recordNearEnd [[7, 8]] := ⟨by decide, by decide, by decide, by decide⟩
  exact (trySend_contract (by decide) (by decide) hvalid [1, 2, 3, 4] .dev).1 (by decide)

end PgNats.RingQueue
