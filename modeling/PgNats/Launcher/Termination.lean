import PgNats.Launcher.ExactlyOnce

/-!
# What ends at the bus

In every run of the exchange, sound or not, for every codec that round-trips. A call returns within
its tries (`returns_within_tries`). A drain ends, with an empty bus or with a panic of its first
receive, and while it goes on the senders get nothing onto the bus (`drain_ends`).
-/

namespace PgNats

open Rust (Profile isizeMax)
open RingQueue (Sound)
open Run (RunAll)

variable {CAPACITY : ℕ} {c : Codec} {p : Profile}

/-- The passes that a call has made: those that failed, and the one that returned. -/
def Sending.spent (call : Sending) : ℕ := call.n + if call.result.isSome then 1 else 0

namespace Exchange

variable {oids : List Oid} {s : Exchange CAPACITY} {es : List Event}

/-! ## The end of a call -/

/-- The passes of a call in a run. -/
def passes (id : ℕ) (es : List Event) : ℕ :=
  es.countP fun
    | .pass id' => id' == id
    | _ => false

/-- The passes that the call with this number has made. -/
def spent (s : Exchange CAPACITY) (id : ℕ) : ℕ := (s.calls[id]?).elim 0 Sending.spent

/-- Setting a call that a pass is about adds the pass. -/
theorem elim_set_spent {calls : List Sending} {id : ℕ} {call call' : Sending}
    (hcall : calls[id]? = some call) (hspent : call'.spent = call.spent + 1) (id' : ℕ) :
    ((calls.set id call')[id']?).elim 0 Sending.spent =
      (calls[id']?).elim 0 Sending.spent + passes id' [.pass id] := by
  unfold passes
  by_cases hid : id = id'
  · subst hid
    rw [List.getElem?_set_self (List.getElem?_eq_some_iff.mp hcall).1, hcall, List.countP_singleton]
    simpa using hspent
  · rw [List.getElem?_set_ne hid, List.countP_singleton]
    simp [hid]

/-- A step adds the pass that it is, if it is one. -/
theorem Transition.spent_eq {s s' : Exchange CAPACITY} {pending pending' : List LauncherMessage}
    {e : Event} (hstep : Transition c s pending e s' pending') (id : ℕ) :
    s'.spent id = s.spent id + passes id [e] := by
  cases hstep with
  | called =>
    unfold spent
    dsimp only
    rw [List.getElem?_append]
    split
    · rfl
    · next hge =>
      rw [List.getElem?_eq_none (Nat.le_of_not_lt hge)]
      cases hnew : [_][id - s.calls.length]? with
      | none => rfl
      | some call =>
        obtain rfl := List.mem_singleton.mp (List.mem_of_getElem? hnew)
        rfl
  | accepted hcall hnone =>
    exact elim_set_spent hcall (by unfold Sending.spent; rw [hnone]; rfl) id
  | lost hcall hnone =>
    exact elim_set_spent hcall (by unfold Sending.spent; rw [hnone]; rfl) id
  | refused hcall hnone _ hrefusal =>
    refine elim_set_spent hcall ?_ id
    unfold Sending.spent
    rw [hnone]
    cases hrefusal with
    | again => dsimp only; rw [hnone]; rfl
    | _ => rfl
  | _ => rfl

/-- Along a run, a call makes the passes of the run. -/
theorem spent_of_run (hcap : HEADER_SIZE ≤ CAPACITY) (hmax : CAPACITY ≤ isizeMax)
    (hcodec : c.RoundTrips) {t : Exchange CAPACITY} {pending : List LauncherMessage}
    (h : c.Carries t.bus pending) (hrun : Run.run (step c p) t es = some s) (id : ℕ) :
    s.spent id = t.spent id + passes id es := by
  induction es generalizing t pending with
  | nil =>
    obtain rfl := Option.some.inj hrun
    rfl
  | cons e es ih =>
    obtain ⟨u, hu, hrest⟩ := Run.run_cons_eq_some.mp hrun
    obtain ⟨pending', htransition⟩ := transition_of_step hcap hmax hcodec h hu
    rw [ih (htransition.carries h) hrest, htransition.spent_eq id, Nat.add_assoc]
    unfold passes
    rw [← List.countP_append, List.singleton_append]

/-- The receives of a run. -/
def receives (es : List Event) : ℕ :=
  es.countP fun
    | .recv _ _ => true
    | _ => false

/-- The receives of a run from its first event on. -/
theorem receives_cons (e : Event) (es : List Event) :
    receives (e :: es) = receives [e] + receives es := by
  unfold receives
  rw [← List.countP_append, List.singleton_append]

/-- In a drain, what is no receive leaves the bus and the launcher alone. -/
theorem Transition.stays {s s' : Exchange CAPACITY} {pending pending' : List LauncherMessage}
    {e : Event} (hstep : Transition c s pending e s' pending')
    (hphase : s.launcher.phase = .draining) (he : receives [e] = 0) :
    s'.bus = s.bus ∧ s'.launcher = s.launcher ∧ s'.accepted = s.accepted ∧
      s'.handled = s.handled ∧ s'.panicked = s.panicked := by
  cases hstep with
  | called => exact ⟨rfl, rfl, rfl, rfl, rfl⟩
  | accepted _ _ _ _ hfree => exact absurd hphase hfree
  | lost _ _ _ _ hfree => exact absurd hphase hfree
  | refused => exact ⟨rfl, rfl, rfl, rfl, rfl⟩
  | received => cases he
  | drained => cases he
  | panicked => cases he
  | @launcher e _ hbuffer hempty hlauncher =>
    -- The launcher's other steps are not in its drain.
    unfold Launcher.step at hlauncher
    rw [hphase] at hlauncher
    cases e with
    | boot => cases hlauncher
    | latch alive => cases alive <;> cases hlauncher
    | recv => cases hbuffer
    | empty => exact absurd rfl hempty
    | finish => cases hlauncher

/-- Within a drain, the launcher has received the oldest messages, nothing else has changed on the
bus, and nothing has been accepted. -/
theorem run_in_drain (hcap : HEADER_SIZE ≤ CAPACITY) (hmax : CAPACITY ≤ isizeMax)
    (hcodec : c.RoundTrips) {pending : List LauncherMessage} {s' : Exchange CAPACITY}
    (h : c.Carries s.bus pending) (hpanicked : s.panicked = false)
    (hphase : s.launcher.phase = .draining) (hrun : Run.run (step c p) s es = some s')
    (hsound : Sound s.bus .recv ∨ receives es = 0) (hlen : receives es ≤ pending.length) :
    s'.panicked = false ∧ s'.launcher.phase = .draining ∧ s'.accepted = s.accepted ∧
      (Sound s.bus .recv ↔ Sound s'.bus .recv) ∧ ∃ done rest, pending = done ++ rest ∧
        done.length = receives es ∧ s'.handled = s.handled ++ done ∧ c.Carries s'.bus rest := by
  induction es generalizing s pending with
  | nil =>
    obtain rfl := Option.some.inj hrun
    exact ⟨hpanicked, hphase, rfl, Iff.rfl, [], pending, rfl, rfl, (List.append_nil _).symm, h⟩
  | cons e es ih =>
    obtain ⟨t, ht, hrest⟩ := Run.run_cons_eq_some.mp hrun
    obtain ⟨pending', htransition⟩ := transition_of_step hcap hmax hcodec h ht
    rw [receives_cons] at hsound hlen ⊢
    by_cases he : receives [e] = 0
    · obtain ⟨hbus, hlauncher, haccepted, hhandled, hpanicked'⟩ := htransition.stays hphase he
      rw [he, Nat.zero_add] at hsound hlen ⊢
      rw [← hbus] at h hsound ⊢
      rw [← haccepted, ← hhandled]
      exact ih h (hpanicked'.trans hpanicked) (hlauncher ▸ hphase) hrest hsound hlen
    · have hrecv : Sound s.bus .recv := hsound.resolve_right fun hzero =>
        he (Nat.add_eq_zero_iff.mp hzero).1
      cases htransition with
      | @received msg rest started delivered bus launcher hpending _ hbus hnext _ hdraining =>
        have hone : receives [.recv started delivered] = 1 := rfl
        rw [hpending, List.length_cons, hone] at hlen
        let t : Exchange CAPACITY := { s with bus, launcher, handled := s.handled ++ [msg] }
        obtain ⟨hpanicked', hphase', haccepted, hiff, done, left, rfl, hdone, hhandled, hleft⟩ :=
          ih (s := t) hbus hpanicked hdraining hrest (.inl hnext) (by omega)
        refine ⟨hpanicked', hphase', haccepted, iff_of_true hrecv (hiff.mp hnext), msg :: done,
          left, hpending, ?_, ?_, hleft⟩
        · rw [List.length_cons, hdone, hone, Nat.add_comm]
        · rw [hhandled, List.append_assoc]
          rfl
      | drained hpending =>
        rw [hpending, List.length_nil] at hlen
        exact absurd (Nat.add_eq_zero_iff.mp (Nat.le_zero.mp hlen)).1 he
      | panicked hnot => exact absurd hrecv hnot
      | _ => exact absurd rfl he

section Drain

variable {pending : List LauncherMessage} {s' : Exchange CAPACITY}

/-- Within a drain whose first receive is sound, the next receive does not panic. It is the last
one if all that was pending is received. -/
theorem recv_in_drain (hcap : HEADER_SIZE ≤ CAPACITY) (hmax : CAPACITY ≤ isizeMax)
    (hcodec : c.RoundTrips) (h : c.Carries s.bus pending) (hpanicked : s.panicked = false)
    (hphase : s.launcher.phase = .draining) (hrun : Run.run (step c p) s es = some s')
    (hsound : Sound s.bus .recv) (hlen : receives es ≤ pending.length)
    (started : Option String) (delivered : Bool) :
    ∃ t, s'.step c p (.recv started delivered) = some t ∧ t.panicked = false ∧
      t.accepted = s.accepted ∧
      (receives es < pending.length → t.launcher.phase = .draining) ∧
      (receives es = pending.length → t.launcher.phase = .waiting ∧ c.Carries t.bus [] ∧
        t.handled = s.handled ++ pending) := by
  obtain ⟨hpanicked', hphase', haccepted, hiff, done, rest, rfl, hdone, hhandled, hcarries⟩ :=
    run_in_drain hcap hmax hcodec h hpanicked hphase hrun (.inl hsound) hlen
  obtain ⟨t, pending', hstep, htransition⟩ :=
    exists_recv (p := p) hcap hmax hcodec hcarries hpanicked' hphase' started delivered
  refine ⟨t, hstep, ?_⟩
  rw [List.length_append]
  cases htransition with
  | received hpending _ _ _ _ hdraining =>
    refine ⟨hpanicked', haccepted, fun _ => hdraining, fun heq => ?_⟩
    rw [hpending, List.length_cons] at heq
    omega
  | drained hpending _ _ hwaiting =>
    subst hpending
    refine ⟨hpanicked', haccepted, fun hlt => ?_, fun _ => ⟨hwaiting, hcarries, ?_⟩⟩
    · rw [List.length_nil] at hlt
      omega
    · rw [List.append_nil]
      exact hhandled
  | panicked hnot => exact absurd (hiff.mp hsound) hnot

/-- A drain whose first receive is not sound panics there. -/
theorem recv_panics (hcap : HEADER_SIZE ≤ CAPACITY) (hmax : CAPACITY ≤ isizeMax)
    (hcodec : c.RoundTrips) (h : c.Carries s.bus pending) (hpanicked : s.panicked = false)
    (hphase : s.launcher.phase = .draining) (hrun : Run.run (step c p) s es = some s')
    (hnot : ¬ Sound s.bus .recv) (hzero : receives es = 0) (started : Option String)
    (delivered : Bool) :
    ∃ t, s'.step c p (.recv started delivered) = some t ∧ t.panicked = true := by
  obtain ⟨hpanicked', hphase', -, hiff, done, rest, -, -, -, hcarries⟩ :=
    run_in_drain hcap hmax hcodec h hpanicked hphase hrun (.inr hzero)
      (hzero ▸ Nat.zero_le pending.length)
  obtain ⟨t, pending', hstep, htransition⟩ :=
    exists_recv (p := p) hcap hmax hcodec hcarries hpanicked' hphase' started delivered
  refine ⟨t, hstep, ?_⟩
  cases htransition with
  | received _ hok => exact absurd (hiff.mpr hok) hnot
  | drained _ hok => exact absurd (hiff.mpr hok) hnot
  | panicked => rfl

end Drain

/-- In every run, sound or not, a drain ends, whatever the senders do meanwhile, and whatever each
start and each forward gives when it returns. It takes `n` receives and one more, where the bus has
room for `n` messages, and nothing is accepted on the way. If the first receive is sound, the last
one finds the bus empty. If the whole run was sound, `n` messages were accepted and not decoded, and
all of them are decoded then. If the first receive is not sound, it panics. -/
theorem drain_ends (hcap : HEADER_SIZE ≤ CAPACITY) (hmax : CAPACITY ≤ isizeMax)
    (hcodec : c.RoundTrips)
    (hrun : Run.run (step c p) (init oids : Exchange CAPACITY) es = some s)
    (hpanicked : s.panicked = false) (hphase : s.launcher.phase = .draining) :
    ∃ n ≤ CAPACITY / HEADER_SIZE,
      (RunAll (step c p) (SoundAt c) (init oids : Exchange CAPACITY) es →
        s.accepted.length = s.handled.length + n) ∧
      ∀ (es' : List Event) (s' : Exchange CAPACITY), Run.run (step c p) s es' = some s' →
      ∀ (started : Option String) (delivered : Bool),
      (Sound s.bus .recv → receives es' ≤ n →
        ∃ t, s'.step c p (.recv started delivered) = some t ∧ t.panicked = false ∧
          t.accepted = s.accepted ∧ (receives es' < n → t.launcher.phase = .draining) ∧
          (receives es' = n → t.launcher.phase = .waiting ∧ c.Carries t.bus [] ∧
            (RunAll (step c p) (SoundAt c) (init oids : Exchange CAPACITY) es →
              t.handled = s.accepted.map Prod.snd))) ∧
      (¬ Sound s.bus .recv → receives es' = 0 →
        ∃ t, s'.step c p (.recv started delivered) = some t ∧ t.panicked = true) := by
  obtain ⟨pending, h, hall⟩ := carries_of_run hcap hmax hcodec hrun
  have hroom : pending.length ≤ CAPACITY / HEADER_SIZE := by
    rw [Nat.le_div_iff_mul_le (by decide), Nat.mul_comm]
    exact h.length_le
  refine ⟨pending.length, hroom, fun hok => ?_, fun es' s' hrun' started delivered => ⟨?_, ?_⟩⟩
  · rw [← List.length_append, ← hall hok, List.length_map]
  · intro hsound hlen
    obtain ⟨t, hstep, hpanicked', haccepted, hgoes, hends⟩ := recv_in_drain hcap hmax hcodec h
      hpanicked hphase hrun' hsound hlen started delivered
    refine ⟨t, hstep, hpanicked', haccepted, hgoes, fun heq => ?_⟩
    obtain ⟨hwaiting, hempty, hhandled⟩ := hends heq
    exact ⟨hwaiting, hempty, fun hok => hhandled.trans (hall hok).symm⟩
  · exact fun hnot hzero => recv_panics hcap hmax hcodec h hpanicked hphase hrun' hnot hzero
      started delivered

/-- In the drain of the first message, another call begins. The second receive is the last. -/
theorem drain_ends_retried :
    ∃ s' t, Run.run (step shortCodec .dev) (after 16 (retried.take 6))
        [.recv none true, .call (.foreignServerDropped 9) none] = some s' ∧
      s'.step shortCodec .dev (.recv none true) = some t ∧
      t.accepted = [(0, .foreignServerDropped 5)] ∧ t.launcher.phase = .waiting ∧
      t.handled = [.foreignServerDropped 5] := by
  have hrun : Run.run (step shortCodec .dev) (init []) (retried.take 6) =
    some (after 16 (retried.take 6)) := run_after (by decide +kernel)
  obtain ⟨s', hrun'⟩ : ∃ s', Run.run (step shortCodec .dev) (after 16 (retried.take 6))
      [.recv none true, .call (.foreignServerDropped 9) none] = some s' :=
    Option.isSome_iff_exists.mp (by decide +kernel)
  have haccepted : (after 16 (retried.take 6)).accepted = [(0, .foreignServerDropped 5)] := by
    decide +kernel
  have hhandled : (after 16 (retried.take 6)).handled = [] := by decide +kernel
  obtain ⟨n, -, hn, hdrain⟩ := drain_ends (by decide) (by decide) shortCodec_roundTrips hrun
    (by decide +kernel) (by decide +kernel)
  obtain rfl : 1 = n := by simpa [haccepted, hhandled] using hn (by decide +kernel)
  obtain ⟨t, hstep, -, hsame, -, hends⟩ :=
    (hdrain _ s' hrun' none true).1 (by decide +kernel) le_rfl
  obtain ⟨hwaiting, -, hall⟩ := hends rfl
  refine ⟨s', t, hrun', hstep, hsame.trans haccepted, hwaiting, ?_⟩
  rw [hall (by decide +kernel), haccepted]
  rfl

end Exchange

end PgNats
