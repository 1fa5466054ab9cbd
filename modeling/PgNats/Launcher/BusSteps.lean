import Mathlib.Data.List.Forall2
import PgNats.Launcher.Bus

/-!
# What a step at the bus does

`Codec.Carries` says which messages the bytes on the bus encode. On a bus that carries `pending`,
`Transition` lists all that a step of the exchange can do, with what the bus carries afterwards
(`transition_of_step`). A call at the queue that is not `Sound` has two of its cases: a `try_send`
that leaves the bus empty, and a `try_recv` that panics. The results about whole runs go through
these cases.
-/

namespace PgNats

open Rust (Panic Profile isizeMax)
open RingQueue (Represents Sound)

variable {CAPACITY : ℕ} {c : Codec} {p : Profile}

/-! ## The messages on the bus -/

/-- The bytes on the bus are the encodings of the messages. -/
def Codec.Carries (c : Codec) (bus : RingQueue CAPACITY) (pending : List LauncherMessage) : Prop :=
  ∃ datas, bus.Represents datas ∧
    List.Forall₂ (fun msg data => c.toStdvec msg = .ok data) pending datas

namespace Codec.Carries

variable {bus : RingQueue CAPACITY} {msg : LauncherMessage} {pending : List LauncherMessage}

/-- The new bus carries nothing. -/
theorem of_new (hcap : HEADER_SIZE ≤ CAPACITY) :
    c.Carries (RingQueue.new : RingQueue CAPACITY) [] :=
  ⟨[], RingQueue.represents_new hcap, .nil⟩

/-- A bus does not carry nothing and something. -/
theorem eq_nil (h : c.Carries bus pending) (hnil : c.Carries bus []) : pending = [] := by
  obtain ⟨datas, hrep, hdatas⟩ := h
  obtain ⟨datas', hrep', hdatas'⟩ := hnil
  obtain rfl := List.forall₂_nil_left_iff.mp hdatas'
  obtain rfl := hrep.eq_nil hrep'
  exact List.forall₂_nil_right_iff.mp hdatas

/-- Each message on the bus takes a header at least. -/
theorem length_le (h : c.Carries bus pending) : HEADER_SIZE * pending.length ≤ CAPACITY := by
  obtain ⟨datas, hrep, hdatas⟩ := h
  rw [hdatas.length_eq]
  refine le_trans ?_ hrep.length_le
  clear hrep hdatas
  induction datas with
  | nil => exact Nat.zero_le _
  | cons data datas ih =>
    rw [RingQueue.encode_cons, List.length_append, RingQueue.length_record, List.length_cons,
      Nat.mul_succ]
    omega

/-- The bus accepts the bytes of a message that fit, and refuses any others. It then carries the
message behind the others, unless the call is not sound. Then it carries nothing. -/
theorem trySend (hcap : HEADER_SIZE ≤ CAPACITY) (hmax : CAPACITY ≤ isizeMax)
    (h : c.Carries bus pending) {data : List UInt8} (hdata : c.toStdvec msg = .ok data) :
    (∃ bus', bus.trySend p data = .ok (bus', .ok ()) ∧
        (Sound bus (.send data) → c.Carries bus' (pending ++ [msg])) ∧
        (¬ Sound bus (.send data) → c.Carries bus' [])) ∨
      bus.trySend p data = .ok (bus, .error ()) ∧ Sound bus (.send data) := by
  obtain ⟨datas, hrep, hdatas⟩ := h
  by_cases hfit : Fifo.Fits HEADER_SIZE CAPACITY datas data
  · obtain ⟨bus', hsend, hread, hwrite, hfull, hbuf⟩ :=
      RingQueue.trySend_ok (p := p) hcap hmax hrep hfit
    have hbus' := RingQueue.represents_sent hmax hrep hfit hread hwrite hfull hbuf
    refine .inl ⟨bus', hsend, fun hsound => ?_, fun hsound => ?_⟩
    · rw [if_pos hsound] at hbus'
      exact ⟨_, hbus', List.rel_append hdatas (.cons hdata .nil)⟩
    · rw [if_neg hsound] at hbus'
      exact ⟨_, hbus', .nil⟩
  · refine .inr ⟨RingQueue.trySend_error hcap hmax hrep hfit, ?_⟩
    by_contra hsound
    exact hfit (RingQueue.fits_of_not_sound hrep hsound)

/-- On a bus that carries nothing, there is nothing to receive. -/
theorem tryRecv_nil (hcap : HEADER_SIZE ≤ CAPACITY) (hmax : CAPACITY ≤ isizeMax)
    (h : c.Carries bus []) : bus.tryRecv p = .ok (bus, none) := by
  obtain ⟨datas, hrep, hdatas⟩ := h
  obtain rfl := List.forall₂_nil_left_iff.mp hdatas
  exact RingQueue.tryRecv_nil hcap hmax hrep

/-- The bytes of the oldest message are received, and they are decoded to it. The next call is then
sound. -/
theorem tryRecv_cons (hmax : CAPACITY ≤ isizeMax) (hcodec : c.RoundTrips)
    (h : c.Carries bus (msg :: pending)) (hsound : Sound bus .recv) :
    ∃ bus' data, bus.tryRecv p = .ok (bus', some data) ∧ c.fromBytes data = .ok msg ∧
      c.Carries bus' pending ∧ Sound bus' .recv := by
  obtain ⟨datas, hrep, hdatas⟩ := h
  cases hdatas with
  | @cons _ data _ datas hdata hdatas =>
    obtain ⟨bus', hrecv, hrep'⟩ := RingQueue.tryRecv_cons (p := p) hmax hrep hsound
    refine ⟨bus', data, hrecv, hcodec msg data hdata, ⟨datas, hrep', hdatas⟩, fun hfull => ?_⟩
    -- A record is gone, so the queue is not full.
    have hlen := hrep.length_le
    have hlen' := hrep'.full_iff.mp hfull
    rw [RingQueue.encode_cons, List.length_append, RingQueue.length_record, hlen'] at hlen
    unfold HEADER_SIZE at hlen
    omega

/-- A `try_recv` that is not sound panics. -/
theorem tryRecv_panics (hmax : CAPACITY ≤ isizeMax) (h : c.Carries bus pending)
    (hsound : ¬ Sound bus .recv) : bus.tryRecv p = .error .sliceRange := by
  obtain ⟨datas, hrep, -⟩ := h
  exact RingQueue.tryRecv_of_not_sound hmax hrep hsound

end Codec.Carries

/-! ## One pass of a call -/

namespace Sending

/-- If the next pass of the call sends, then its `try_send` is sound. -/
def SoundOn (c : Codec) (call : Sending) (bus : RingQueue CAPACITY) : Prop :=
  call.Attempts → ∀ data, c.toStdvec call.msg = .ok data → Sound bus (.send data)

/-- How a call goes on without being accepted. -/
inductive Refusal (c : Codec) (call : Sending) : Sending → Prop where
  /-- Its message is not encoded. -/
  | unencoded {error : String} (herror : c.toStdvec call.msg = .error error) :
    Refusal c call { call with result := some (.error error) }
  /-- The one try of `send_message_to_launcher` fails. -/
  | failed (htries : call.tries = none) :
    Refusal c call { call with result := some (.error "Failed to send to launcher message") }
  /-- A try of `send_message_to_launcher_with_retry` fails. -/
  | again {tries : ℕ} (htries : call.tries = some tries) (hlt : call.n < tries) :
    Refusal c call { call with n := call.n + 1 }
  /-- No try is left. -/
  | exhausted {tries : ℕ} (htries : call.tries = some tries) (hge : tries ≤ call.n) :
    Refusal c call { call with result := some (.error (Sending.exhausted tries)) }

/-- A call is not accepted and keeps its message. -/
theorem Refusal.result_ne {call call' : Sending} (h : call.Refusal c call')
    (hnone : call.result = none) : call'.msg = call.msg ∧ call'.result ≠ some (.ok ()) := by
  cases h with
  | again => exact ⟨rfl, fun hok => by cases hnone.symm.trans hok⟩
  | _ => exact ⟨rfl, fun hok => by cases hok⟩

section Pass

variable {bus : RingQueue CAPACITY} {pending : List LauncherMessage}

/-- The `try_send` of a pass, on a bus that carries `pending`. -/
theorem trySend_cases (hcap : HEADER_SIZE ≤ CAPACITY) (hmax : CAPACITY ≤ isizeMax)
    (h : c.Carries bus pending) {call : Sending} (hattempts : call.Attempts) {data : List UInt8}
    (hdata : c.toStdvec call.msg = .ok data) :
    (∃ bus', bus.trySend p data = .ok (bus', .ok ()) ∧
        (call.SoundOn c bus → c.Carries bus' (pending ++ [call.msg])) ∧
        (¬ call.SoundOn c bus → c.Carries bus' [])) ∨
      bus.trySend p data = .ok (bus, .error ()) ∧ call.SoundOn c bus := by
  have hiff : call.SoundOn c bus ↔ Sound bus (.send data) := by
    constructor
    · exact fun hsound => hsound hattempts data hdata
    · intro hsound _ data' hdata'
      exact Except.ok.inj (hdata.symm.trans hdata') ▸ hsound
  rw [hiff]
  exact h.trySend hcap hmax hdata

/-- A pass of a call does not panic. Either it takes the lock, the bus accepts the message, and the
call returns `Ok`, or the bus stays as it is. -/
theorem pass_cases (hcap : HEADER_SIZE ≤ CAPACITY) (hmax : CAPACITY ≤ isizeMax)
    (h : c.Carries bus pending) (call : Sending) :
    (∃ bus', call.pass c p bus = .ok (bus', { call with result := some (.ok ()) }) ∧
        call.Locks c ∧ (call.SoundOn c bus → c.Carries bus' (pending ++ [call.msg])) ∧
        (¬ call.SoundOn c bus → c.Carries bus' [])) ∨
      ∃ call', call.pass c p bus = .ok (bus, call') ∧ call.Refusal c call' ∧
        call.SoundOn c bus := by
  unfold pass sendMessageToLauncher Locks
  cases hdata : c.toStdvec call.msg with
  | error error =>
    refine .inr ⟨_, ?_, .unencoded hdata, fun _ data hok => ?_⟩
    · cases call.tries <;> rfl
    · cases hdata.symm.trans hok
  | ok data =>
    have hencoded : (Except.ok data : Except String (List UInt8)).isOk = true := rfl
    cases htries : call.tries with
    | none =>
      have hattempts : call.Attempts := fun tries hmem => by cases htries.symm.trans hmem
      dsimp only
      rcases trySend_cases (p := p) hcap hmax h hattempts hdata
        with ⟨bus', hsend, hbus'⟩ | ⟨hsend, hsound⟩
      · exact .inl ⟨bus', by rw [hsend]; rfl, ⟨hencoded, hattempts⟩, hbus'⟩
      · exact .inr ⟨_, by rw [hsend, htries]; rfl, .failed htries, hsound⟩
    | some tries =>
      dsimp only
      by_cases hlt : call.n < tries
      · have hattempts : call.Attempts := by
          intro tries' hmem
          exact Option.some.inj (htries.symm.trans hmem) ▸ hlt
        rw [if_pos hlt]
        rcases trySend_cases (p := p) hcap hmax h hattempts hdata
          with ⟨bus', hsend, hbus'⟩ | ⟨hsend, hsound⟩
        · exact .inl ⟨bus', by rw [hsend]; rfl, ⟨hencoded, hattempts⟩, hbus'⟩
        · exact .inr ⟨_, by rw [hsend, htries]; rfl, .again htries hlt, hsound⟩
      · rw [if_neg hlt]
        have hsound : call.SoundOn c bus := fun hattempts => absurd (hattempts tries htries) hlt
        exact .inr ⟨_, by rw [htries]; rfl, .exhausted htries (Nat.le_of_not_lt hlt), hsound⟩

end Pass

end Sending

/-! ## One step of the exchange -/

/-- The buffer that the launcher receives: a message, or one that is not decoded. -/
def Launcher.Event.buffer? : Launcher.Event → Option (Option LauncherMessage)
  | .recv msg _ _ => some msg
  | _ => none

namespace Exchange

/-- What a step needs of the bus: that the call at it, if there is one, is sound. -/
def SoundAt (c : Codec) (s : Exchange CAPACITY) : Event → Prop
  | .pass id => ∀ call, s.calls[id]? = some call → call.SoundOn c s.bus
  | .recv _ _ => Sound s.bus .recv
  | _ => True

/-- What a step can do while the bus carries `pending`, and what it carries then. -/
inductive Transition (c : Codec) (s : Exchange CAPACITY) (pending : List LauncherMessage) :
    Event → Exchange CAPACITY → List LauncherMessage → Prop where
  /-- A call begins. -/
  | called {msg : LauncherMessage} {tries : Option ℕ} :
    Transition c s pending (.call msg tries)
      { s with calls := s.calls ++ [⟨msg, tries, 0, none⟩] } pending
  /-- A call is accepted. -/
  | accepted {id : ℕ} {call : Sending} {bus : RingQueue CAPACITY}
    (hcall : s.calls[id]? = some call) (hnone : call.result = none)
    (hsound : s.SoundAt c (.pass id)) (hbus : c.Carries bus (pending ++ [call.msg]))
    (hphase : s.launcher.phase ≠ .draining) :
    Transition c s pending (.pass id) { s with
      bus
      calls := s.calls.set id { call with result := some (.ok ()) }
      accepted := s.accepted ++ [(id, call.msg)] } (pending ++ [call.msg])
  /-- A call is accepted, and its message and all before it are lost. -/
  | lost {id : ℕ} {call : Sending} {bus : RingQueue CAPACITY}
    (hcall : s.calls[id]? = some call) (hnone : call.result = none)
    (hsound : ¬ s.SoundAt c (.pass id)) (hbus : c.Carries bus [])
    (hphase : s.launcher.phase ≠ .draining) :
    Transition c s pending (.pass id) { s with
      bus
      calls := s.calls.set id { call with result := some (.ok ()) }
      accepted := s.accepted ++ [(id, call.msg)] } []
  /-- A call is not accepted. -/
  | refused {id : ℕ} {call call' : Sending} (hcall : s.calls[id]? = some call)
    (hnone : call.result = none) (hsound : s.SoundAt c (.pass id))
    (hrefusal : call.Refusal c call') :
    Transition c s pending (.pass id) { s with calls := s.calls.set id call' } pending
  /-- The launcher receives the oldest message. -/
  | received {msg : LauncherMessage} {rest : List LauncherMessage} {started : Option String}
    {delivered : Bool} {bus : RingQueue CAPACITY} {launcher : Launcher}
    (hpending : pending = msg :: rest) (hsound : Sound s.bus .recv) (hbus : c.Carries bus rest)
    (hnext : Sound bus .recv)
    (hstep : s.launcher.step (.recv (some msg) started delivered) = some launcher)
    (hphase : launcher.phase = .draining) :
    Transition c s pending (.recv started delivered)
      { s with bus, launcher, handled := s.handled ++ [msg] } rest
  /-- The launcher finds the bus empty. -/
  | drained {started : Option String} {delivered : Bool} {launcher : Launcher}
    (hpending : pending = []) (hsound : Sound s.bus .recv)
    (hstep : s.launcher.step .empty = some launcher) (hphase : launcher.phase = .waiting) :
    Transition c s pending (.recv started delivered) { s with launcher } []
  /-- The launcher panics at the bus. -/
  | panicked {started : Option String} {delivered : Bool} (hsound : ¬ Sound s.bus .recv) :
    Transition c s pending (.recv started delivered) { s with panicked := true } pending
  /-- The launcher does something away from the bus. -/
  | launcher {e : Launcher.Event} {launcher : Launcher} (hbuffer : e.buffer? = none)
    (hempty : e ≠ .empty) (hstep : s.launcher.step e = some launcher) :
    Transition c s pending (.launcher e) { s with launcher } pending

section Step

variable {s s' : Exchange CAPACITY} {pending pending' : List LauncherMessage}

/-- A pass of a call that has not returned, if it does not wait for the lock. -/
theorem exists_pass (hcap : HEADER_SIZE ≤ CAPACITY) (hmax : CAPACITY ≤ isizeMax)
    (h : c.Carries s.bus pending) (hpanicked : s.panicked = false) {id : ℕ} {call : Sending}
    (hcall : s.calls[id]? = some call) (hnone : call.result = none)
    (hfree : ¬ (s.launcher.phase = .draining ∧ call.Locks c)) :
    ∃ s' pending', s.step c p (.pass id) = some s' ∧ Transition c s pending (.pass id) s' pending' ∧
      s'.panicked = false := by
  have hpasses : ¬ ((s.launcher.phase = .draining ∧ call.Locks c) ∨ call.result.isSome = true) := by
    rintro (hwaits | hsome)
    · exact hfree hwaits
    · rw [hnone] at hsome
      cases hsome
  -- The call is the only one that the pass is about.
  have hiff : s.SoundAt c (.pass id) ↔ call.SoundOn c s.bus := by
    constructor
    · exact fun hsound => hsound call hcall
    · intro hsound call' hcall'
      exact Option.some.inj (hcall.symm.trans hcall') ▸ hsound
  unfold Exchange.step
  rw [if_neg (Bool.eq_false_iff.mp hpanicked)]
  dsimp only
  rw [hcall]
  dsimp only
  rw [if_neg hpasses]
  rcases Sending.pass_cases (p := p) hcap hmax h call with
    ⟨bus', hpass, hlocks, hcarry, hdrop⟩ | ⟨call', hpass, hrefusal, hsound⟩
  · have hphase : s.launcher.phase ≠ .draining := fun hdraining => hfree ⟨hdraining, hlocks⟩
    rw [hpass]
    by_cases hsound : s.SoundAt c (.pass id)
    · have hbus' := hcarry (hiff.mp hsound)
      exact ⟨_, _, rfl, .accepted hcall hnone hsound hbus' hphase, hpanicked⟩
    · have hbus' := hdrop fun h => hsound (hiff.mpr h)
      exact ⟨_, _, rfl, .lost hcall hnone hsound hbus' hphase, hpanicked⟩
  · rw [hpass]
    have hne := (hrefusal.result_ne hnone).2
    refine ⟨_, pending, rfl, ?_, hpanicked⟩
    rw [if_neg hne, List.append_nil]
    exact .refused hcall hnone (hiff.mpr hsound) hrefusal

/-- In a drain the launcher receives. -/
theorem exists_recv (hcap : HEADER_SIZE ≤ CAPACITY) (hmax : CAPACITY ≤ isizeMax)
    (hcodec : c.RoundTrips) (h : c.Carries s.bus pending) (hpanicked : s.panicked = false)
    (hphase : s.launcher.phase = .draining) (started : Option String) (delivered : Bool) :
    ∃ s' pending', s.step c p (.recv started delivered) = some s' ∧
      Transition c s pending (.recv started delivered) s' pending' := by
  unfold Exchange.step
  rw [if_neg (Bool.eq_false_iff.mp hpanicked)]
  dsimp only
  rw [if_pos hphase]
  unfold drain
  by_cases hsound : Sound s.bus .recv
  · cases pending with
    | nil =>
      have hstep : s.launcher.step .empty = some { s.launcher with phase := .waiting } := by
        unfold Launcher.step
        rw [hphase]
      rw [h.tryRecv_nil hcap hmax]
      dsimp only
      rw [hstep]
      exact ⟨_, _, rfl, .drained rfl hsound hstep rfl⟩
    | cons msg rest =>
      obtain ⟨bus', data, hrecv, hdecode, hbus', hnext⟩ :=
        h.tryRecv_cons (p := p) hmax hcodec hsound
      obtain ⟨launcher, hstep, hphase'⟩ : ∃ launcher,
          s.launcher.step (.recv (some msg) started delivered) = some launcher ∧
            launcher.phase = .draining := by
        unfold Launcher.step
        rw [hphase]
        exact ⟨_, rfl, (Launcher.foldl_perform delivered _ _).1⟩
      rw [hrecv]
      dsimp only
      rw [hdecode]
      dsimp only [Except.toOption]
      rw [hstep]
      exact ⟨_, _, rfl, .received rfl hsound hbus' hnext hstep hphase'⟩
  · rw [h.tryRecv_panics hmax hsound]
    exact ⟨_, _, rfl, .panicked hsound⟩

/-- Every step is one of the transitions. -/
theorem transition_of_step (hcap : HEADER_SIZE ≤ CAPACITY) (hmax : CAPACITY ≤ isizeMax)
    (hcodec : c.RoundTrips) (h : c.Carries s.bus pending) {e : Event}
    (hstep : s.step c p e = some s') : ∃ pending', Transition c s pending e s' pending' := by
  have hnot : ¬ s.panicked = true := by
    intro hpanicked
    unfold Exchange.step at hstep
    rw [if_pos hpanicked] at hstep
    cases hstep
  have hpanicked : s.panicked = false := Bool.eq_false_iff.mpr hnot
  cases e with
  | call msg tries =>
    unfold Exchange.step at hstep
    rw [if_neg hnot] at hstep
    exact ⟨pending, Option.some.inj hstep ▸ .called⟩
  | pass id =>
    obtain ⟨call, hcall, hnone, hfree⟩ : ∃ call, s.calls[id]? = some call ∧
        call.result = none ∧ ¬ (s.launcher.phase = .draining ∧ call.Locks c) := by
      unfold Exchange.step at hstep
      rw [if_neg hnot] at hstep
      dsimp only at hstep
      split at hstep
      · next call hcall =>
        split at hstep
        · cases hstep
        · next hpasses =>
          refine ⟨call, hcall, ?_, fun hwaits => hpasses (.inl hwaits)⟩
          rw [← Option.not_isSome_iff_eq_none]
          exact fun hsome => hpasses (.inr hsome)
      · cases hstep
    obtain ⟨t, pending', ht, htransition, -⟩ :=
      exists_pass (p := p) hcap hmax h hpanicked hcall hnone hfree
    exact ⟨pending', Option.some.inj (ht.symm.trans hstep) ▸ htransition⟩
  | recv started delivered =>
    have hphase : s.launcher.phase = .draining := by
      by_contra hphase
      unfold Exchange.step at hstep
      rw [if_neg hnot] at hstep
      dsimp only at hstep
      rw [if_neg hphase] at hstep
      cases hstep
    obtain ⟨t, pending', ht, htransition⟩ :=
      exists_recv (p := p) hcap hmax hcodec h hpanicked hphase started delivered
    exact ⟨pending', Option.some.inj (ht.symm.trans hstep) ▸ htransition⟩
  | launcher e =>
    unfold Exchange.step at hstep
    rw [if_neg hnot] at hstep
    dsimp only at hstep
    split at hstep
    · cases hstep
    · cases hstep
    · next hrecv hempty =>
      obtain ⟨launcher, hlauncher, rfl⟩ := Option.map_eq_some_iff.mp hstep
      refine ⟨pending, .launcher ?_ hempty hlauncher⟩
      cases e with
      | recv msg started delivered => exact absurd rfl (hrecv msg started delivered)
      | _ => rfl

/-- What the bus carries after a step. -/
theorem Transition.carries (h : c.Carries s.bus pending) {e : Event}
    (hstep : Transition c s pending e s' pending') : c.Carries s'.bus pending' := by
  cases hstep with
  | called => exact h
  | accepted _ _ _ hbus => exact hbus
  | lost _ _ _ hbus => exact hbus
  | refused => exact h
  | received _ _ hbus => exact hbus
  | drained hpending => exact hpending ▸ h
  | panicked => exact h
  | launcher => exact h

end Step

end Exchange

end PgNats
