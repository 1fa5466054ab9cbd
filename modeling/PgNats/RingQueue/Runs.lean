import PgNats.Lib.Run
import PgNats.RingQueue.Refinement

/-!
# The queue over whole runs

`step_refines_iff` puts the calls of `Refinement` together: on a queue that holds `ms`, a call does
what the bounded FIFO list does exactly when it is `Sound`. Both main results follow by induction on
the calls, from the empty queue that `RingQueue::new` makes.

`refines_iff_sound` is the FIFO contract. A run agrees with the FIFO list up to each of its calls
exactly when all its calls are `Sound`, whichever processes make them. `no_panic_iff` is the absence
of panics. In every state that any run reaches, sound or not, the next call panics exactly when it
is a `try_recv` on a full queue whose oldest record runs past the end of the buffer.

The capacity is at least one header, and at most `isize::MAX`, which bounds the size of every Rust
type and so of the buffer.
-/

namespace PgNats.RingQueue

open Rust (Panic Profile isizeMax)
open Run (RunAll)

variable {CAPACITY : ℕ} {p : Profile}

/-! ## One call -/

section Step

variable {q : RingQueue CAPACITY} {ms : List (List UInt8)}

/-- A queue holds one number of bytes, so it cannot hold nothing and something. -/
theorem Represents.eq_nil (h : Represents q ms) (h' : Represents q []) : ms = [] := by
  have hlen : (encode ms).length = (encode []).length := h.usedLen_eq.symm.trans h'.usedLen_eq
  cases ms with
  | nil => rfl
  | cons m ms =>
    rw [encode_cons, List.length_append, length_record, encode_nil, List.length_nil] at hlen
    unfold HEADER_SIZE at hlen
    omega

/-- A call that is not sound is not refused: the message that fills the queue does fit. -/
theorem fits_of_not_sound {msg : List UInt8} (h : Represents q ms)
    (hsound : ¬ Sound q (.send msg)) : Fifo.Fits HEADER_SIZE CAPACITY ms msg := by
  obtain ⟨hend, hfill⟩ := not_not.mp hsound
  have hu := h.usedLen_eq
  have hw := h.write_lt
  have hnf : q.is_full = false := by
    apply Bool.eq_false_iff.mpr
    intro hf
    have := h.read_lt_of_full hf
    omega
  unfold usedLen at hu
  rw [hnf, if_neg Bool.false_ne_true, if_neg (by omega)] at hu
  unfold Fifo.Fits
  rw [← length_encode]
  omega

/-- A full queue whose oldest record runs past the end of the buffer makes `try_recv` panic. -/
theorem tryRecv_of_not_sound (hmax : CAPACITY ≤ isizeMax) (h : Represents q ms)
    (hsound : ¬ Sound q .recv) : tryRecv p q = .error .sliceRange := by
  have hfull : q.is_full = true := by
    by_contra hf
    exact hsound fun hf' => absurd hf' hf
  have hr := h.read_lt_of_full hfull
  cases ms with
  | nil =>
    have hC := h.full_iff.mp hfull
    rw [encode_nil, List.length_nil] at hC
    omega
  | cons m ms =>
    obtain ⟨hhead, hm⟩ := h.headLen_eq hmax
    exact tryRecv_panics hmax hr (h.read_eq_write hfull) (by omega) hsound

/-- A call that is not sound and receives panics. -/
theorem step_recv_panics (hmax : CAPACITY ≤ isizeMax) (h : Represents q ms)
    (hsound : ¬ Sound q .recv) : step p q .recv = .error .sliceRange := by
  unfold step
  dsimp only
  rw [tryRecv_of_not_sound hmax h hsound, Rust.error_bind]

/-- A sound call has the reply of the FIFO list, and leaves the queue with its messages. -/
theorem step_of_sound (hcap : HEADER_SIZE ≤ CAPACITY) (hmax : CAPACITY ≤ isizeMax)
    (h : Represents q ms) {op : Fifo.Op UInt8} (hsound : Sound q op) :
    ∃ q', step p q op = .ok (q', (Fifo.step HEADER_SIZE CAPACITY ms op).2) ∧
      Represents q' (Fifo.step HEADER_SIZE CAPACITY ms op).1 := by
  cases op with
  | send msg =>
    unfold step Fifo.step
    dsimp only
    by_cases hfit : Fifo.Fits HEADER_SIZE CAPACITY ms msg
    · obtain ⟨q', hsend, hread, hwrite, hfull, hbuf⟩ := trySend_ok (p := p) hcap hmax h hfit
      have hq' := represents_sent hmax h hfit hread hwrite hfull hbuf
      rw [if_pos hsound] at hq'
      refine ⟨q', ?_, ?_⟩
      · rw [hsend, if_pos hfit]; rfl
      · rw [if_pos hfit]; exact hq'
    · refine ⟨q, ?_, ?_⟩
      · rw [trySend_error hcap hmax h hfit, if_neg hfit]; rfl
      · rw [if_neg hfit]; exact h
  | recv =>
    unfold step Fifo.step
    dsimp only
    cases ms with
    | nil => exact ⟨q, by rw [tryRecv_nil hcap hmax h]; rfl, h⟩
    | cons m ms =>
      obtain ⟨q', hrecv, hq'⟩ := tryRecv_cons (p := p) hmax h hsound
      exact ⟨q', by rw [hrecv]; rfl, hq'⟩

/-- A `try_send` that is not sound replies `Ok`, and leaves the queue empty. -/
theorem step_send_of_not_sound (hcap : HEADER_SIZE ≤ CAPACITY) (hmax : CAPACITY ≤ isizeMax)
    (h : Represents q ms) {msg : List UInt8} (hsound : ¬ Sound q (.send msg)) :
    ∃ q', step p q (.send msg) = .ok (q', .sent (.ok ())) ∧ Represents q' [] := by
  have hfit := fits_of_not_sound h hsound
  obtain ⟨q', hsend, hread, hwrite, hfull, hbuf⟩ := trySend_ok (p := p) hcap hmax h hfit
  have hq' := represents_sent hmax h hfit hread hwrite hfull hbuf
  rw [if_neg hsound] at hq'
  exact ⟨q', by unfold step; dsimp only; rw [hsend]; rfl, hq'⟩

/-- On a queue that holds `ms`, a call does what the FIFO list does exactly when it is sound. -/
theorem step_refines_iff (hcap : HEADER_SIZE ≤ CAPACITY) (hmax : CAPACITY ≤ isizeMax)
    (h : Represents q ms) (op : Fifo.Op UInt8) :
    (∃ q', step p q op = .ok (q', (Fifo.step HEADER_SIZE CAPACITY ms op).2) ∧
      Represents q' (Fifo.step HEADER_SIZE CAPACITY ms op).1) ↔ Sound q op := by
  refine ⟨?_, step_of_sound hcap hmax h⟩
  rintro ⟨q', hstep, hq'⟩
  by_contra hsound
  cases op with
  | send msg =>
    -- The call dropped all messages, and the FIFO list has at least the new one.
    obtain ⟨q'', hstep', hq''⟩ := step_send_of_not_sound (p := p) hcap hmax h hsound
    rw [hstep'] at hstep
    obtain rfl : q'' = q' := congrArg Prod.fst (Except.ok.inj hstep)
    unfold Fifo.step at hq'
    dsimp only at hq'
    rw [if_pos (fits_of_not_sound h hsound)] at hq'
    have hnil := hq'.eq_nil hq''
    exact absurd hnil (by simp)
  | recv =>
    rw [step_recv_panics hmax h hsound] at hstep
    exact absurd hstep (by simp)

end Step

/-! ## The FIFO contract -/

/-- The queue after a call, if the call does not panic. -/
def next (p : Profile) (q : RingQueue CAPACITY) (call : Call) : Option (RingQueue CAPACITY) :=
  (step p q call.op).toOption.map Prod.fst

/-- The calls have the replies that the FIFO list of pending messages `ms` gives, and leave the
queue with the messages that are then pending. -/
def Refines (p : Profile) (q : RingQueue CAPACITY) (ms : List (List UInt8)) (calls : List Call) :
    Prop :=
  ∃ q', run p q calls = .ok (q', (Fifo.run HEADER_SIZE CAPACITY ms (calls.map Call.op)).2) ∧
    Represents q' (Fifo.run HEADER_SIZE CAPACITY ms (calls.map Call.op)).1

/-- Calls refine the FIFO list when the first one does and the others do from there on. -/
theorem refines_cons {q q' : RingQueue CAPACITY} {ms : List (List UInt8)} {call : Call}
    {calls : List Call}
    (hstep : step p q call.op = .ok (q', (Fifo.step HEADER_SIZE CAPACITY ms call.op).2)) :
    Refines p q ms (call :: calls) ↔
      Refines p q' (Fifo.step HEADER_SIZE CAPACITY ms call.op).1 calls := by
  unfold Refines
  rw [List.map_cons, Fifo.run_cons, run, hstep, Rust.ok_bind]
  dsimp only
  generalize Fifo.run HEADER_SIZE CAPACITY (Fifo.step HEADER_SIZE CAPACITY ms call.op).1
    (calls.map Call.op) = spec
  constructor
  · rintro ⟨t, hrun, ht⟩
    cases hrest : run p q' calls with
    | error e => rw [hrest, Rust.error_bind] at hrun; exact absurd hrun (by simp)
    | ok r =>
      rw [hrest, Rust.ok_bind, Rust.pure_eq_ok] at hrun
      obtain ⟨hq, hreplies⟩ := Prod.mk.inj (Except.ok.inj hrun)
      exact ⟨t, by rw [← hq, ← (List.cons.inj hreplies).2], ht⟩
  · rintro ⟨t, hrun, ht⟩
    exact ⟨t, by rw [hrun, Rust.ok_bind, Rust.pure_eq_ok], ht⟩

/-- A run agrees with the FIFO list up to each of its calls exactly when all its calls are sound. -/
theorem refines_iff_runAll_sound (hcap : HEADER_SIZE ≤ CAPACITY) (hmax : CAPACITY ≤ isizeMax)
    {q : RingQueue CAPACITY} {ms : List (List UInt8)} (h : Represents q ms) (calls : List Call) :
    (∀ pre, pre <+: calls → Refines p q ms pre) ↔
      RunAll (next p) (fun q call => Sound q call.op) q calls := by
  -- The pending messages follow the FIFO list, so the induction is over any represented queue.
  induction calls generalizing q ms with
  | nil =>
    refine ⟨fun _ => trivial, fun _ pre hpre => ?_⟩
    rw [List.prefix_nil.mp hpre]
    exact ⟨q, rfl, h⟩
  | cons call calls ih =>
    constructor
    · intro hall
      have hone := hall [call] (List.cons_prefix_cons.mpr ⟨rfl, List.nil_prefix⟩)
      have hsound : Sound q call.op := by
        apply (step_refines_iff (p := p) hcap hmax h call.op).mp
        obtain ⟨t, hrun, ht⟩ := hone
        cases hstep : step p q call.op with
        | error e => simp [run, hstep] at hrun
        | ok r =>
          simp only [run, hstep, Rust.ok_bind, Rust.pure_eq_ok, List.map_cons, List.map_nil,
            Fifo.run, Except.ok.injEq, Prod.mk.injEq, List.cons.injEq, and_true] at hrun ht
          exact ⟨t, by rw [← hrun.1, ← hrun.2], ht⟩
      obtain ⟨q', hstep, hq'⟩ := step_of_sound (p := p) hcap hmax h hsound
      have hnext : next p q call = some q' := by unfold next; rw [hstep]; rfl
      rw [Run.runAll_cons hnext]
      refine ⟨hsound, (ih hq').mp fun pre hpre => ?_⟩
      exact (refines_cons hstep).mp (hall _ (List.cons_prefix_cons.mpr ⟨rfl, hpre⟩))
    · intro hall pre hpre
      obtain ⟨hsound, -⟩ := id hall
      obtain ⟨q', hstep, hq'⟩ := step_of_sound (p := p) hcap hmax h hsound
      have hnext : next p q call = some q' := by unfold next; rw [hstep]; rfl
      obtain ⟨-, hrest⟩ := (Run.runAll_cons hnext).mp hall
      cases pre with
      | nil => exact ⟨q, rfl, h⟩
      | cons call' pre =>
        obtain ⟨rfl, htail⟩ := List.cons_prefix_cons.mp hpre
        exact (refines_cons hstep).mpr ((ih hq').mpr hrest pre htail)

/-- From the empty queue, any calls of any processes meet the FIFO contract up to each of them
exactly when every call is sound where it is made. -/
theorem refines_iff_sound (hcap : HEADER_SIZE ≤ CAPACITY) (hmax : CAPACITY ≤ isizeMax)
    (p : Profile) (calls : List Call) :
    (∀ pre, pre <+: calls → Refines p (new : RingQueue CAPACITY) [] pre) ↔
      RunAll (next p) (fun q call => Sound q call.op) (new : RingQueue CAPACITY) calls :=
  refines_iff_runAll_sound hcap hmax (represents_new hcap) calls

/-- The source's own test of exact fullness, at its offset: five calls that fill 64 bytes from index
0 on are sound, and so meet the contract. -/
theorem fill_exactly_refines :
    Refines .release (new : RingQueue 64) []
      [⟨0, .send (List.replicate 24 1)⟩, ⟨1, .send (List.replicate 24 2)⟩, ⟨0, .send []⟩,
       ⟨2, .recv⟩, ⟨2, .recv⟩] :=
  (refines_iff_sound (by decide) (by decide) .release _).mpr (by decide) _ List.prefix_rfl

/-- In a buffer of one header, the second empty message is accepted and never received: the first
one leaves the read index at 8, and the second one the write index at 0. -/
theorem refill_lost :
    ∃ q, run .dev (new : RingQueue 8)
        [⟨0, .send []⟩, ⟨1, .recv⟩, ⟨0, .send []⟩, ⟨1, .recv⟩]
      = .ok (q, [.sent (.ok ()), .received (some []), .sent (.ok ()), .received none]) ∧
      (Fifo.run HEADER_SIZE 8 [] [.send [], .recv, .send [], .recv]).2
        = [.sent (.ok ()), .received (some []), .sent (.ok ()),
          .received (some ([] : List UInt8))] :=
  ⟨{ read := 8, write := 0, is_full := false, buffer := List.Vector.replicate 8 0 }, rfl, rfl⟩

/-! ## Panics -/

/-- Any call that does not panic leaves the queue with some messages, sound or not. -/
theorem represents_of_step (hcap : HEADER_SIZE ≤ CAPACITY) (hmax : CAPACITY ≤ isizeMax)
    {q q' : RingQueue CAPACITY} {ms : List (List UInt8)} {op : Fifo.Op UInt8}
    {reply : Fifo.Reply UInt8} (h : Represents q ms) (hstep : step p q op = .ok (q', reply)) :
    ∃ ms', Represents q' ms' := by
  by_cases hsound : Sound q op
  · obtain ⟨t, ht, hrep⟩ := step_of_sound (p := p) hcap hmax h hsound
    rw [ht] at hstep
    obtain rfl : t = q' := congrArg Prod.fst (Except.ok.inj hstep)
    exact ⟨_, hrep⟩
  · cases op with
    | send msg =>
      obtain ⟨t, ht, hrep⟩ := step_send_of_not_sound (p := p) hcap hmax h hsound
      rw [ht] at hstep
      obtain rfl : t = q' := congrArg Prod.fst (Except.ok.inj hstep)
      exact ⟨_, hrep⟩
    | recv =>
      rw [step_recv_panics hmax h hsound] at hstep
      exact absurd hstep (by simp)

/-- In every state that a run reaches, the queue holds some messages. -/
theorem represents_of_run (hcap : HEADER_SIZE ≤ CAPACITY) (hmax : CAPACITY ≤ isizeMax)
    {q q' : RingQueue CAPACITY} {ms : List (List UInt8)} {calls : List Call}
    {replies : List (Fifo.Reply UInt8)} (h : Represents q ms)
    (hrun : run p q calls = .ok (q', replies)) : ∃ ms', Represents q' ms' := by
  induction calls generalizing q ms replies with
  | nil =>
    obtain rfl : q = q' := congrArg Prod.fst (Except.ok.inj hrun)
    exact ⟨ms, h⟩
  | cons call calls ih =>
    unfold run at hrun
    cases hstep : step p q call.op with
    | error e => rw [hstep, Rust.error_bind] at hrun; exact absurd hrun (by simp)
    | ok r =>
      obtain ⟨t, reply⟩ := r
      obtain ⟨ms', ht⟩ := represents_of_step hcap hmax h hstep
      rw [hstep, Rust.ok_bind] at hrun
      dsimp only at hrun
      cases hrest : run p t calls with
      | error e => rw [hrest, Rust.error_bind] at hrun; exact absurd hrun (by simp)
      | ok r' =>
        rw [hrest, Rust.ok_bind, Rust.pure_eq_ok] at hrun
        obtain rfl : r'.1 = q' := congrArg Prod.fst (Except.ok.inj hrun)
        exact ih ht hrest

/-- In every state that a run of any profile reaches, the next call evaluates without a panic, with
overflow checks on, exactly when it is not a `try_recv` on a full queue whose oldest record runs
past the end of the buffer. -/
theorem no_panic_iff (hcap : HEADER_SIZE ≤ CAPACITY) (hmax : CAPACITY ≤ isizeMax)
    (calls : List Call) {q : RingQueue CAPACITY} {replies : List (Fifo.Reply UInt8)}
    (hrun : run p new calls = .ok (q, replies)) (op : Fifo.Op UInt8) :
    (∃ r, step .dev q op = .ok r) ↔
      (op = .recv → q.is_full = true → q.read + (HEADER_SIZE + q.headLen) ≤ CAPACITY) := by
  obtain ⟨ms, h⟩ := represents_of_run hcap hmax (represents_new hcap) hrun
  constructor
  · rintro ⟨r, hr⟩ rfl hfull
    by_contra hwraps
    have hpanic : step .dev q .recv = .error .sliceRange := by
      apply step_recv_panics hmax h
      exact fun hsound => hwraps (hsound hfull)
    rw [hpanic] at hr
    exact absurd hr (by simp)
  · intro hhead
    cases op with
    | send msg =>
      by_cases hsound : Sound q (.send msg)
      · obtain ⟨q', hstep, -⟩ := step_of_sound (p := .dev) hcap hmax h hsound
        exact ⟨_, hstep⟩
      · obtain ⟨q', hstep, -⟩ := step_send_of_not_sound (p := .dev) hcap hmax h hsound
        exact ⟨_, hstep⟩
    | recv =>
      obtain ⟨q', hstep, -⟩ := step_of_sound (p := .dev) hcap hmax h
        (show Sound q .recv from hhead rfl)
      exact ⟨_, hstep⟩

/-- The same message of 6 bytes sent to the empty buffer of 14 bytes fills it from index 0 on, and
`try_recv` evaluates. -/
theorem full_at_start_no_panic :
    ∃ r, step .dev (⟨0, 0, true, ⟨[6, 0, 0, 0, 0, 0, 0, 0, 3, 4, 5, 6, 7, 8], rfl⟩⟩ : RingQueue 14)
      .recv = .ok r :=
  (no_panic_iff (by decide) (by decide) [⟨0, .send [3, 4, 5, 6, 7, 8]⟩]
    (show run .dev new _ = .ok (_, [.sent (.ok ())]) from rfl) .recv).mpr (by decide)

/-- With 14 bytes, a message of 6 bytes behind one of 2 that is already read fills the queue from
index 10 on. The next `try_recv` takes `buffer[10..18]` for its header. -/
theorem full_wrapped_panics :
    ∃ q replies, run .dev (new : RingQueue 14)
        [⟨0, .send [1, 2]⟩, ⟨1, .recv⟩, ⟨0, .send [3, 4, 5, 6, 7, 8]⟩] = .ok (q, replies) ∧
      step .dev q .recv = .error .sliceRange :=
  ⟨{ read := 10, write := 10, is_full := true,
     buffer := ⟨[0, 0, 0, 0, 3, 4, 5, 6, 7, 8, 6, 0, 0, 0], rfl⟩ },
    [.sent (.ok ()), .received (some [1, 2]), .sent (.ok ())], rfl, rfl⟩

end PgNats.RingQueue
