import PgNats.Launcher.BusSteps

/-!
# Delivery over the bus

The messages that the bus accepted, against those that the launcher decodes from it, over whole runs
of the exchange, for every codec that round-trips.

In every run, the launcher decodes an ordered part of what the bus accepted (`at_most_once`). That
nothing is lost, and nothing panics, is so exactly in the runs whose calls at the queue are all
`Sound` (`exactly_once_iff`).
-/

namespace PgNats

open Rust (Profile isizeMax)
open RingQueue (Sound)
open Run (RunAll)

variable {CAPACITY : ℕ} {c : Codec} {p : Profile}

namespace Sending

/-- What a call has done and what it returns: the passes that failed are within the tries, and an
error is the codec's, or the one of its function, after the last of the tries. -/
structure Reported (c : Codec) (call : Sending) : Prop where
  /-- The passes that failed are within the tries. -/
  n_le : call.n ≤ call.tries.getD 0
  /-- The error of `send_message_to_launcher`. -/
  once : ∀ error, call.tries = none → call.result = some (.error error) →
    c.toStdvec call.msg = .error error ∨ error = "Failed to send to launcher message"
  /-- The error of `send_message_to_launcher_with_retry`. -/
  retried : ∀ error, ∀ tries ∈ call.tries, call.result = some (.error error) →
    c.toStdvec call.msg = .error error ∨ call.n = tries ∧ error = exhausted tries

/-- A call that begins has done nothing. -/
theorem Reported.of_new (msg : LauncherMessage) (tries : Option ℕ) :
    Reported c ⟨msg, tries, 0, none⟩ where
  n_le := Nat.zero_le _
  once := fun error _ herror => by cases herror
  retried := fun error _ _ herror => by cases herror

/-- A call that is accepted returns no error. -/
theorem Reported.accept {call : Sending} (h : call.Reported c) :
    Reported c { call with result := some (.ok ()) } where
  n_le := h.n_le
  once := fun error _ herror => by cases herror
  retried := fun error _ _ herror => by cases herror

/-- A call that is not accepted counts the pass, or returns an error of its own. -/
theorem Reported.refuse {call call' : Sending} (h : call.Reported c) (hnone : call.result = none)
    (hrefusal : call.Refusal c call') : call'.Reported c := by
  cases hrefusal with
  | unencoded herror =>
    refine ⟨h.n_le, fun error _ heq => ?_, fun error _ _ heq => ?_⟩
    · cases heq
      exact .inl herror
    · cases heq
      exact .inl herror
  | failed htries =>
    refine ⟨h.n_le, fun error _ heq => ?_, fun error tries hmem => ?_⟩
    · cases heq
      exact .inr rfl
    · exact absurd (htries.symm.trans hmem) (Option.some_ne_none _).symm
  | again htries hlt =>
    refine ⟨?_, fun error hnil => ?_, fun error _ _ heq => ?_⟩
    · rw [htries]
      exact hlt
    · exact absurd (htries.symm.trans hnil) (Option.some_ne_none _)
    · exact absurd (hnone.symm.trans heq) (Option.some_ne_none _).symm
  | @exhausted tries htries hge =>
    refine ⟨h.n_le, fun error hnil => ?_, fun error tries' hmem heq => ?_⟩
    · exact absurd (htries.symm.trans hnil) (Option.some_ne_none _)
    · obtain rfl := Option.some.inj (htries.symm.trans hmem)
      have hle := h.n_le
      rw [htries, Option.getD_some] at hle
      cases heq
      exact .inr ⟨Nat.le_antisymm hle hge, rfl⟩

end Sending

namespace Exchange

/-! ## The calls and what was accepted for them -/

/-- The list of accepted calls agrees with what the calls returned. -/
structure Logged (c : Codec) (calls : List Sending) (accepted : List (ℕ × LauncherMessage)) :
    Prop where
  /-- No call is accepted twice. -/
  nodup : (accepted.map Prod.fst).Nodup
  /-- The calls that are accepted are those that returned `Ok`. -/
  mem_iff : ∀ id msg, (id, msg) ∈ accepted ↔
    ∃ call, calls[id]? = some call ∧ call.msg = msg ∧ call.result = some (.ok ())
  /-- The calls are within their tries, and their errors are those of the functions. -/
  reported : ∀ call ∈ calls, call.Reported c

namespace Logged

variable {calls : List Sending} {accepted : List (ℕ × LauncherMessage)}

/-- At the start there are no calls. -/
theorem nil : Logged c [] [] where
  nodup := List.nodup_nil
  mem_iff := by
    intro id msg
    constructor
    · exact fun h => absurd h List.not_mem_nil
    · rintro ⟨call, hcall, -⟩
      cases hcall
  reported := fun call h => absurd h List.not_mem_nil

/-- A call begins. -/
theorem call (h : Logged c calls accepted) (msg : LauncherMessage) (tries : Option ℕ) :
    Logged c (calls ++ [⟨msg, tries, 0, none⟩]) accepted where
  nodup := h.nodup
  mem_iff := by
    intro id m
    rw [h.mem_iff]
    constructor
    · rintro ⟨call, hcall, hmsg, hresult⟩
      have hlt : id < calls.length := (List.getElem?_eq_some_iff.mp hcall).1
      exact ⟨call, by rw [List.getElem?_append_left hlt]; exact hcall, hmsg, hresult⟩
    · rintro ⟨call, hcall, hmsg, hresult⟩
      rw [List.getElem?_append] at hcall
      split at hcall
      · exact ⟨call, hcall, hmsg, hresult⟩
      · have hnew := List.mem_singleton.mp (List.mem_of_getElem? hcall)
        rw [hnew] at hresult
        cases hresult
  reported := by
    intro call hcall
    rcases List.mem_append.mp hcall with hcall | hcall
    · exact h.reported call hcall
    · exact List.mem_singleton.mp hcall ▸ .of_new msg tries

section Pass

variable {id : ℕ} {call call' : Sending}

/-- A call that has not returned has not been accepted. -/
theorem not_mem (h : Logged c calls accepted) (hcall : calls[id]? = some call)
    (hnone : call.result = none) (msg : LauncherMessage) : (id, msg) ∉ accepted := by
  intro hmem
  obtain ⟨call₁, hcall₁, -, hok⟩ := (h.mem_iff id msg).mp hmem
  obtain rfl := Option.some.inj (hcall.symm.trans hcall₁)
  rw [hnone] at hok
  cases hok

/-- The calls that returned `Ok` after a pass. -/
theorem exists_set_iff (h : Logged c calls accepted) (hcall : calls[id]? = some call)
    (hnone : call.result = none) (hmsg : call'.msg = call.msg) (id' : ℕ) (msg : LauncherMessage) :
    (∃ call, (calls.set id call')[id']? = some call ∧ call.msg = msg ∧
        call.result = some (.ok ())) ↔
      (id', msg) ∈ accepted ∨ id' = id ∧ msg = call.msg ∧ call'.result = some (.ok ()) := by
  by_cases hid : id' = id
  · subst hid
    rw [List.getElem?_set_self (List.getElem?_eq_some_iff.mp hcall).1]
    constructor
    · rintro ⟨call₁, hcall₁, hm, hok⟩
      obtain rfl := Option.some.inj hcall₁
      exact .inr ⟨rfl, hm.symm.trans hmsg, hok⟩
    · rintro (hmem | ⟨-, rfl, hok⟩)
      · exact absurd hmem (h.not_mem hcall hnone msg)
      · exact ⟨call', rfl, hmsg, hok⟩
  · rw [List.getElem?_set_ne (Ne.symm hid), h.mem_iff]
    exact ⟨.inl, fun hor => hor.resolve_right fun hr => hid hr.1⟩

/-- After a pass, each call is still reported. -/
theorem reported_set (h : Logged c calls accepted) (hreported : call'.Reported c) :
    ∀ call ∈ calls.set id call', call.Reported c := by
  intro call hmem
  rcases List.mem_or_eq_of_mem_set hmem with hmem | rfl
  · exact h.reported call hmem
  · exact hreported

/-- A call is accepted, for the first time. -/
theorem accept (h : Logged c calls accepted) (hcall : calls[id]? = some call)
    (hnone : call.result = none) :
    Logged c (calls.set id { call with result := some (.ok ()) })
      (accepted ++ [(id, call.msg)]) where
  nodup := by
    rw [List.map_append, List.nodup_append]
    refine ⟨h.nodup, List.nodup_singleton id, ?_⟩
    intro id' hmem id'' hid
    obtain ⟨⟨id₁, msg⟩, hpair, rfl⟩ := List.mem_map.mp hmem
    rw [List.mem_singleton.mp hid]
    rintro rfl
    exact h.not_mem hcall hnone msg hpair
  mem_iff := by
    intro id' msg
    have hmsg : ({ call with result := some (.ok ()) } : Sending).msg = call.msg := rfl
    rw [h.exists_set_iff hcall hnone hmsg, List.mem_append, List.mem_singleton, Prod.mk.injEq]
    simp only [and_true]
  reported := h.reported_set (h.reported call (List.mem_of_getElem? hcall)).accept

/-- A call is not accepted. -/
theorem refuse (h : Logged c calls accepted) (hcall : calls[id]? = some call)
    (hnone : call.result = none) (hrefusal : call.Refusal c call') :
    Logged c (calls.set id call') accepted where
  nodup := h.nodup
  mem_iff := by
    obtain ⟨hmsg, hne⟩ := hrefusal.result_ne hnone
    intro id' msg
    rw [h.exists_set_iff hcall hnone hmsg]
    simp only [hne, and_false, or_false]
  reported := h.reported_set ((h.reported call (List.mem_of_getElem? hcall)).refuse hnone hrefusal)

end Pass

end Logged

/-! ## What holds along a run -/

/-- What holds of the exchange while the bus carries `pending`. -/
structure Holds (c : Codec) (oids : List Oid) (s : Exchange CAPACITY)
    (pending : List LauncherMessage) : Prop extends Logged c s.calls s.accepted where
  /-- The bus carries the messages. -/
  carries : c.Carries s.bus pending
  /-- What was decoded, and then what is pending, are an ordered part of what was accepted. -/
  order : (s.handled ++ pending).Sublist (s.accepted.map Prod.snd)
  /-- The launcher took a run of its own, on whose way it received what it decoded. -/
  decoded : ∃ es, Run.run Launcher.step (.init oids) es = some s.launcher ∧
    es.filterMap Launcher.Event.buffer? = s.handled.map some

/-- Nothing is pending at the start. -/
theorem holds_init (hcap : HEADER_SIZE ≤ CAPACITY) (oids : List Oid) :
    Holds c oids (init oids : Exchange CAPACITY) [] where
  toLogged := .nil
  carries := .of_new hcap
  order := List.nil_sublist _
  decoded := ⟨[], rfl, rfl⟩

section Step

variable {oids : List Oid} {s s' : Exchange CAPACITY} {pending pending' : List LauncherMessage}
  {e : Event}

/-- A run of the launcher goes on. -/
theorem decoded_snoc {launcher launcher' : Launcher} {handled : List LauncherMessage}
    {e : Launcher.Event} (hstep : launcher.step e = some launcher')
    (h : ∃ es, Run.run Launcher.step (.init oids) es = some launcher ∧
      es.filterMap Launcher.Event.buffer? = handled.map some) :
    ∃ es, Run.run Launcher.step (.init oids) es = some launcher' ∧
      es.filterMap Launcher.Event.buffer? = handled.map some ++ e.buffer?.toList := by
  obtain ⟨es, hrun, hbuffers⟩ := h
  refine ⟨es ++ [e], ?_, ?_⟩
  · rw [Run.run_append, hrun, Option.bind_some, Run.run_singleton, hstep]
  · rw [List.filterMap_append, hbuffers, filterMap_cons_toList, List.filterMap_nil,
      List.append_nil]

/-- Every step keeps what holds. -/
theorem Holds.transition (h : Holds c oids s pending)
    (hstep : Transition c s pending e s' pending') : Holds c oids s' pending' := by
  have hcarries : c.Carries s'.bus pending' := hstep.carries h.carries
  -- A message that is accepted comes last.
  have haccept : ∀ id msg, (s.handled ++ (pending ++ [msg])).Sublist
      ((s.accepted ++ [(id, msg)]).map Prod.snd) := by
    intro id msg
    rw [← List.append_assoc, List.map_append]
    exact h.order.append (List.Sublist.refl _)
  cases hstep with
  | called => exact ⟨h.toLogged.call _ _, hcarries, h.order, h.decoded⟩
  | accepted hcall hnone =>
    exact ⟨h.toLogged.accept hcall hnone, hcarries, haccept _ _, h.decoded⟩
  | lost hcall hnone =>
    refine ⟨h.toLogged.accept hcall hnone, hcarries, ?_, h.decoded⟩
    exact ((List.nil_sublist _).append_left s.handled).trans (haccept _ _)
  | refused hcall hnone _ hrefusal =>
    exact ⟨h.toLogged.refuse hcall hnone hrefusal, hcarries, h.order, h.decoded⟩
  | @received msg rest _ _ _ _ hpending _ _ _ hlauncher =>
    obtain ⟨es, hrun, hbuffers⟩ := decoded_snoc hlauncher h.decoded
    refine ⟨h.toLogged, hcarries, ?_, es, hrun, ?_⟩
    · rw [List.append_assoc, List.singleton_append, ← hpending]
      exact h.order
    · rw [hbuffers, List.map_append]
      rfl
  | drained hpending _ hlauncher =>
    obtain ⟨es, hrun, hbuffers⟩ := decoded_snoc hlauncher h.decoded
    exact ⟨h.toLogged, hcarries, hpending ▸ h.order, es, hrun, hbuffers.trans (List.append_nil _)⟩
  | panicked => exact ⟨h.toLogged, hcarries, h.order, h.decoded⟩
  | launcher hbuffer _ hlauncher =>
    obtain ⟨es, hrun, hbuffers⟩ := decoded_snoc hlauncher h.decoded
    rw [hbuffer, Option.toList_none, List.append_nil] at hbuffers
    exact ⟨h.toLogged, hcarries, h.order, es, hrun, hbuffers⟩

/-- A step that is sound at the bus loses nothing and does not panic. -/
theorem Transition.keeps_all (hstep : Transition c s pending e s' pending')
    (hsound : s.SoundAt c e) (hpanicked : s.panicked = false)
    (hall : s.accepted.map Prod.snd = s.handled ++ pending) :
    s'.panicked = false ∧ s'.accepted.map Prod.snd = s'.handled ++ pending' := by
  cases hstep with
  | accepted =>
    refine ⟨hpanicked, ?_⟩
    rw [List.map_append, hall, List.append_assoc]
    rfl
  | lost _ _ hnot => exact absurd hsound hnot
  | received hpending =>
    refine ⟨hpanicked, ?_⟩
    rw [hall, hpending, List.append_assoc]
    rfl
  | drained hpending => exact ⟨hpanicked, hpending ▸ hall⟩
  | panicked hnot => exact absurd hsound hnot
  | _ => exact ⟨hpanicked, hall⟩

/-- A step that is not sound loses messages or panics. -/
theorem Transition.loses (hstep : Transition c s pending e s' pending')
    (hsound : ¬ s.SoundAt c e) (hall : s.accepted.map Prod.snd = s.handled ++ pending) :
    s'.panicked = true ∨ c.Carries s'.bus [] ∧ s'.handled.length < s'.accepted.length := by
  cases hstep with
  | lost _ _ _ hbus =>
    have hlength := congrArg List.length hall
    rw [List.length_map, List.length_append] at hlength
    refine .inr ⟨hbus, ?_⟩
    dsimp only
    rw [List.length_append, List.length_singleton, hlength]
    omega
  | panicked => exact .inl rfl
  | accepted _ _ hok => exact absurd hok hsound
  | refused _ _ hok => exact absurd hok hsound
  | received _ hok => exact absurd hok hsound
  | drained _ hok => exact absurd hok hsound
  | _ => exact absurd trivial hsound

end Step

section Runs

variable {oids : List Oid} {s : Exchange CAPACITY} {es : List Event}

/-- What holds in every state that a run reaches. -/
theorem holds_of_run (hcap : HEADER_SIZE ≤ CAPACITY) (hmax : CAPACITY ≤ isizeMax)
    (hcodec : c.RoundTrips)
    (hrun : Run.run (step c p) (init oids : Exchange CAPACITY) es = some s) :
    ∃ pending, Holds c oids s pending := by
  have hkeep : ∀ (t : Exchange CAPACITY) (e : Event) (t' : Exchange CAPACITY),
      (∃ pending, Holds c oids t pending) → t.step c p e = some t' →
      ∃ pending, Holds c oids t' pending := by
    rintro t e t' ⟨pending, h⟩ hstep
    obtain ⟨pending', htransition⟩ := transition_of_step hcap hmax hcodec h.carries hstep
    exact ⟨pending', h.transition htransition⟩
  exact Run.run_invariant_of_step hkeep ⟨[], holds_init hcap oids⟩ hrun

/-! ## At most once -/

/-- What the senders and the launcher may rely on in every state of the exchange. -/
structure DeliversAtMostOnce (c : Codec) (oids : List Oid) (s : Exchange CAPACITY) : Prop where
  /-- What the launcher decoded, and then what the bus carries, are accepted messages, each of them
  once and in the order of acceptance. -/
  in_order : ∃ pending, c.Carries s.bus pending ∧
    (s.handled ++ pending).Sublist (s.accepted.map Prod.snd)
  /-- A call is accepted once if it returned `Ok`, and otherwise not at all. -/
  once : ∀ id call, s.calls[id]? = some call →
    (s.accepted.map Prod.fst).count id = if call.result = some (.ok ()) then 1 else 0
  /-- What is accepted for a call is its message. -/
  of_call : ∀ entry ∈ s.accepted, ∃ call, s.calls[entry.1]? = some call ∧ call.msg = entry.2
  /-- A call that returned an error made all its tries, or its message is not encoded. -/
  reported : ∀ call ∈ s.calls, call.Reported c
  /-- The launcher took a run of its own on these messages, without a buffer that it skipped. -/
  decoded : ∃ es, Run.run Launcher.step (.init oids) es = some s.launcher ∧
    es.filterMap Launcher.Event.buffer? = s.handled.map some

/-- What holds of a state, for its senders and the launcher. -/
theorem Holds.deliversAtMostOnce {pending : List LauncherMessage} (h : Holds c oids s pending) :
    DeliversAtMostOnce c oids s where
  in_order := ⟨pending, h.carries, h.order⟩
  once := by
    intro id call hcall
    split
    · next hok =>
      refine List.count_eq_one_of_mem h.nodup (List.mem_map.mpr ⟨(id, call.msg), ?_, rfl⟩)
      exact (h.mem_iff id call.msg).mpr ⟨call, hcall, rfl, hok⟩
    · next hnot =>
      refine List.count_eq_zero.mpr fun hmem => hnot ?_
      obtain ⟨⟨id', msg⟩, hentry, rfl⟩ := List.mem_map.mp hmem
      obtain ⟨call', hcall', -, hok⟩ := (h.mem_iff _ msg).mp hentry
      obtain rfl := Option.some.inj (hcall.symm.trans hcall')
      exact hok
  of_call := by
    rintro ⟨id, msg⟩ hentry
    obtain ⟨call, hcall, hmsg, -⟩ := (h.mem_iff id msg).mp hentry
    exact ⟨call, hcall, hmsg⟩
  reported := h.reported
  decoded := h.decoded

/-- The codec on the shortest messages: the number of the variant, and an oid of one byte. -/
def shortCodec : Codec where
  toStdvec
    | .foreignServerDropped db_oid =>
      if db_oid < 128 then .ok [5, db_oid.toUInt8] else .error "not short"
    | _ => .error "not short"
  fromBytes
    | [5, db_oid] => .ok (.foreignServerDropped db_oid.toUInt32)
    | _ => .error "not short"

/-- A short oid is one byte. -/
theorem shortCodec_roundTrips : shortCodec.RoundTrips := by
  intro msg data hdata
  cases msg with
  | foreignServerDropped db_oid =>
    unfold shortCodec at hdata ⊢
    dsimp only at hdata
    split at hdata
    · next hlt =>
      obtain rfl := Except.ok.inj hdata
      have hoid : db_oid.toUInt8.toUInt32 = db_oid := by
        apply UInt32.toNat.inj
        rw [UInt8.toNat_toUInt32, UInt32.toNat_toUInt8]
        exact Nat.mod_eq_of_lt (Nat.lt_trans (UInt32.lt_iff_toNat_lt.mp hlt) (by decide))
      exact congrArg (fun oid => Except.ok (LauncherMessage.foreignServerDropped oid)) hoid
    · cases hdata
  | _ => cases hdata

/-- The state after the events, from a start without databases. -/
def after (CAPACITY : ℕ) (es : List Event) : Exchange CAPACITY :=
  (Run.run (step shortCodec .dev) (init []) es).getD (init [])

/-- The events can happen. -/
theorem run_after {es : List Event}
    (h : (Run.run (step shortCodec .dev) (init [] : Exchange CAPACITY) es).isSome = true) :
    Run.run (step shortCodec .dev) (init []) es = some (after CAPACITY es) := by
  obtain ⟨s, hs⟩ := Option.isSome_iff_exists.mp h
  unfold after
  rw [hs, Option.getD_some]

/-- Two calls, with a drain between them. -/
def refilled : List Event := [
  .launcher (.boot none), .call (.foreignServerDropped 5) none, .pass 0, .launcher (.latch true),
  .recv none true, .recv none true, .call (.foreignServerDropped 7) none, .pass 1]

/-- What they may rely on while no call at the queue goes wrong. -/
structure DeliversOnce (c : Codec) (oids : List Oid) (s : Exchange CAPACITY) : Prop
    extends DeliversAtMostOnce c oids s where
  /-- The launcher decoded all that was accepted, up to what the bus carries. -/
  complete : ∃ pending, c.Carries s.bus pending ∧
    s.accepted.map Prod.snd = s.handled ++ pending
  /-- Nothing panicked. -/
  panicked : s.panicked = false

/-- What holds of the exchange while no call at the queue goes wrong. -/
def HoldsAll (c : Codec) (oids : List Oid) (s : Exchange CAPACITY) : Prop :=
  ∃ pending, Holds c oids s pending ∧ s.panicked = false ∧
    s.accepted.map Prod.snd = s.handled ++ pending

/-- It holds at the start. -/
theorem holdsAll_init (hcap : HEADER_SIZE ≤ CAPACITY) (oids : List Oid) :
    HoldsAll c oids (init oids : Exchange CAPACITY) :=
  ⟨[], holds_init hcap oids, rfl, rfl⟩

/-- A sound step keeps it. -/
theorem HoldsAll.step (hcap : HEADER_SIZE ≤ CAPACITY) (hmax : CAPACITY ≤ isizeMax)
    (hcodec : c.RoundTrips) {t : Exchange CAPACITY} {e : Event} (h : HoldsAll c oids s)
    (hsound : s.SoundAt c e) (hstep : s.step c p e = some t) : HoldsAll c oids t := by
  obtain ⟨pending, h, hpanicked, hall⟩ := h
  obtain ⟨pending', htransition⟩ := transition_of_step hcap hmax hcodec h.carries hstep
  exact ⟨pending', h.transition htransition, htransition.keeps_all hsound hpanicked hall⟩

/-- What the bus carries after a run is all that was accepted and not decoded, if the run was sound.
-/
theorem carries_of_run (hcap : HEADER_SIZE ≤ CAPACITY) (hmax : CAPACITY ≤ isizeMax)
    (hcodec : c.RoundTrips)
    (hrun : Run.run (step c p) (init oids : Exchange CAPACITY) es = some s) :
    ∃ pending, c.Carries s.bus pending ∧
      (RunAll (step c p) (SoundAt c) (init oids : Exchange CAPACITY) es →
        s.accepted.map Prod.snd = s.handled ++ pending) := by
  by_cases hsound : RunAll (step c p) (SoundAt c) (init oids : Exchange CAPACITY) es
  · have hkeep : ∀ (t : Exchange CAPACITY) (e : Event) (t' : Exchange CAPACITY),
        HoldsAll c oids t → t.SoundAt c e → t.step c p e = some t' → HoldsAll c oids t' :=
      fun _ _ _ h => h.step hcap hmax hcodec
    obtain ⟨pending, h, -, hall⟩ := Run.run_invariant hkeep (holdsAll_init hcap oids) hsound hrun
    exact ⟨pending, h.carries, fun _ => hall⟩
  · obtain ⟨pending, h⟩ := holds_of_run hcap hmax hcodec hrun
    exact ⟨pending, h.carries, fun hnot => absurd hnot hsound⟩

/-- A step that is not sound leaves a state that does not deliver exactly once. -/
theorem HoldsAll.not_deliversOnce (hcap : HEADER_SIZE ≤ CAPACITY) (hmax : CAPACITY ≤ isizeMax)
    (hcodec : c.RoundTrips) {t : Exchange CAPACITY} {e : Event} (h : HoldsAll c oids s)
    (hsound : ¬ s.SoundAt c e) (hstep : s.step c p e = some t) : ¬ DeliversOnce c oids t := by
  obtain ⟨pending, h, -, hall⟩ := h
  intro hdelivers
  obtain ⟨pending', htransition⟩ := transition_of_step hcap hmax hcodec h.carries hstep
  rcases htransition.loses hsound hall with hpanicked | ⟨hnil, hlt⟩
  · exact absurd (hdelivers.panicked.symm.trans hpanicked) Bool.false_ne_true
  · -- The bus carries nothing, so the launcher should have decoded all that was accepted.
    obtain ⟨rest, hrest, hcomplete⟩ := hdelivers.complete
    obtain rfl := hrest.eq_nil hnil
    have hlength := congrArg List.length hcomplete
    rw [List.length_map, List.append_nil] at hlength
    omega

/-- Every state that a run passes through delivers exactly once if and only if all the calls of the
run at the queue are sound. -/
theorem exactly_once_iff (hcap : HEADER_SIZE ≤ CAPACITY) (hmax : CAPACITY ≤ isizeMax)
    (hcodec : c.RoundTrips)
    (hrun : Run.run (step c p) (init oids : Exchange CAPACITY) es = some s) :
    RunAll (step c p) (SoundAt c) (init oids : Exchange CAPACITY) es ↔
      ∀ pre, pre <+: es → ∀ t : Exchange CAPACITY, Run.run (step c p) (init oids) pre = some t →
        DeliversOnce c oids t := by
  have hgood : ∀ t : Exchange CAPACITY, HoldsAll c oids t → DeliversOnce c oids t := by
    rintro t ⟨pending, h, hpanicked, hall⟩
    exact ⟨h.deliversAtMostOnce, ⟨pending, h.carries, hall⟩, hpanicked⟩
  exact Run.runAll_iff_forall_prefix hgood (fun _ _ _ h => h.step hcap hmax hcodec)
    (fun _ _ _ h => h.not_deliversOnce hcap hmax hcodec) (holdsAll_init hcap oids) hrun

instance (call : Sending) (bus : RingQueue CAPACITY) : Decidable (call.SoundOn c bus) :=
  match h : c.toStdvec call.msg with
  | .ok data => decidable_of_iff (call.Attempts → Sound bus (.send data))
      (by simp [Sending.SoundOn, h])
  | .error _ => .isTrue (by simp [Sending.SoundOn, h])

instance (s : Exchange CAPACITY) : ∀ e, Decidable (s.SoundAt c e)
  | .pass id => inferInstanceAs (Decidable (∀ call ∈ s.calls[id]?, call.SoundOn c s.bus))
  | .recv _ _ => inferInstanceAs (Decidable (Sound s.bus .recv))
  | .call _ _ | .launcher _ => .isTrue trivial

/-- A bus of 16 bytes has room for one of the two messages, and the second call gets it on its
second try, when the launcher has received the first. -/
def retried : List Event := [
  .launcher (.boot none), .call (.foreignServerDropped 5) none,
  .call (.foreignServerDropped 7) (some 3), .pass 0, .pass 1, .launcher (.latch true),
  .recv none true, .recv none true, .pass 1]

/-- Both messages are accepted once, and one of them is received. -/
theorem exactly_once_retried :
    (∀ pre, pre <+: retried → ∀ t : Exchange 16,
      Run.run (step shortCodec .dev) (init []) pre = some t → DeliversOnce shortCodec [] t) ∧
    (after 16 retried).accepted = [(0, .foreignServerDropped 5), (1, .foreignServerDropped 7)] ∧
    (after 16 retried).handled = [.foreignServerDropped 5] :=
  ⟨(exactly_once_iff (by decide) (by decide) shortCodec_roundTrips
      (run_after (by decide +kernel))).mp (by decide +kernel),
    by decide +kernel, by decide +kernel⟩

end Runs

end Exchange

end PgNats
