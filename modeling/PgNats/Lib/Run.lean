import Mathlib.Data.List.Basic

/-!
# Runs of an event-driven system

A system is a partial step function `step : σ → ε → Option σ`: the event `e` is enabled in the state
`s` when `step s e` is `some s'`. `run` takes a list of events in order, and `RunAll step ok` says
that every event of a run meets the condition `ok` in the state it is taken in. A condition that
always holds gives plain reachability.

`run_invariant` is the induction behind every safety theorem: an invariant that holds at the start
and is kept by each step that meets the condition holds wherever the run ends.
`runAll_iff_forall_prefix` adds the converse for a condition whose failure shows at once: the run
meets the condition at every step exactly when the property holds in every state it passes through.

`observe` collects what the steps of a run bring in, and `run_account` is about the books of a run:
what comes in along the way against what the states hold at its ends. `run_simulation` is about two
systems: a relation that says how the second one follows the first.

Where every event is enabled, a run is a `foldl`. `foldl_rounds` is about events that act in two
parts: when the first part of an event commutes with the second part of another, all the first
parts may be taken before all the second ones.
-/

namespace PgNats.Run

variable {σ ε : Type} (step : σ → ε → Option σ)

/-- The state after a list of events, or `none` when one of them is not enabled. -/
def run : σ → List ε → Option σ
  | s, [] => some s
  | s, e :: es => (step s e).bind fun s' => run s' es

/-- Every event of the run meets `ok` in the state it is taken in. -/
def RunAll (ok : σ → ε → Prop) : σ → List ε → Prop
  | _, [] => True
  | s, e :: es => ok s e ∧ match step s e with
    | some s' => RunAll ok s' es
    | none => True

/-- A condition that can be decided for each step can be decided for a run. -/
instance RunAll.decidable (ok : σ → ε → Prop) [∀ s e, Decidable (ok s e)] :
    ∀ s es, Decidable (RunAll step ok s es)
  | _, [] => .isTrue trivial
  | s, e :: es =>
    match h : step s e with
    | some s' =>
      have := RunAll.decidable ok s' es
      decidable_of_iff (ok s e ∧ RunAll step ok s' es) (by rw [RunAll, h])
    | none => decidable_of_iff (ok s e ∧ True) (by rw [RunAll, h])

variable {step}

/-- A run from its first event on. -/
theorem run_cons_eq_some {s s' : σ} {e : ε} {es : List ε} :
    run step s (e :: es) = some s' ↔ ∃ t, step s e = some t ∧ run step t es = some s' :=
  Option.bind_eq_some_iff

/-- A run splits at any of its states. -/
theorem run_append {s : σ} {es es' : List ε} :
    run step s (es ++ es') = (run step s es).bind fun t => run step t es' := by
  induction es generalizing s with
  | nil => rfl
  | cons e es ih =>
    rw [List.cons_append, run, run]
    cases step s e with
    | none => rfl
    | some t => exact ih

/-- A run of one event is a step. -/
theorem run_singleton (s : σ) (e : ε) : run step s [e] = step s e :=
  Option.bind_fun_some _

/-- In a run that goes through, each event that it comes to is enabled. -/
theorem exists_step_of_run {s s' t : σ} {e : ε} {pre es : List ε} (h : run step s es = some s')
    (hpre : pre ++ [e] <+: es) (ht : run step s pre = some t) :
    ∃ t', step t e = some t' ∧ run step s (pre ++ [e]) = some t' := by
  obtain ⟨rest, rfl⟩ := hpre
  rw [List.append_assoc, run_append, ht, Option.bind_some, List.singleton_append] at h
  obtain ⟨t', ht', -⟩ := run_cons_eq_some.mp h
  refine ⟨t', ht', ?_⟩
  rw [run_append, ht, Option.bind_some, run, ht']
  rfl

/-- What an observer of the steps sees along a run. -/
def observe {α : Type} (step : σ → ε → Option σ) (see : σ → ε → Option α) : σ → List ε → List α
  | _, [] => []
  | s, e :: es => (see s e).toList ++ match step s e with
    | some s' => observe step see s' es
    | none => []

/-- When every event is always enabled, every run ends somewhere. -/
theorem run_total (htotal : ∀ s e, ∃ s', step s e = some s') (s : σ) (es : List ε) :
    ∃ s', run step s es = some s' := by
  induction es generalizing s with
  | nil => exact ⟨s, rfl⟩
  | cons e es ih =>
    obtain ⟨t, ht⟩ := htotal s e
    obtain ⟨s', hs'⟩ := ih t
    exact ⟨s', run_cons_eq_some.mpr ⟨t, ht, hs'⟩⟩

/-- The condition of a run, at an enabled first event. -/
theorem runAll_cons {ok : σ → ε → Prop} {s t : σ} {e : ε} {es : List ε} (h : step s e = some t) :
    RunAll step ok s (e :: es) ↔ ok s e ∧ RunAll step ok t es := by
  rw [RunAll, h]

/-- A condition on the events alone holds along the run when it holds of each event. -/
theorem RunAll.of_forall_mem {ok : ε → Prop} {s : σ} {es : List ε} (h : ∀ e ∈ es, ok e) :
    RunAll step (fun _ e => ok e) s es := by
  induction es generalizing s with
  | nil => trivial
  | cons e es ih =>
    have hes : ∀ t, RunAll step (fun _ e => ok e) t es :=
      fun t => ih fun e' hmem => h e' (List.mem_cons_of_mem _ hmem)
    refine ⟨h e List.mem_cons_self, ?_⟩
    cases step s e with
    | none => trivial
    | some t => exact hes t

/-- Two conditions hold along a run when each of them does. -/
theorem RunAll.and {ok ok' : σ → ε → Prop} {s : σ} {es : List ε} (h : RunAll step ok s es)
    (h' : RunAll step ok' s es) : RunAll step (fun s e => ok s e ∧ ok' s e) s es := by
  induction es generalizing s with
  | nil => trivial
  | cons e es ih =>
    obtain ⟨he, hes⟩ := h
    obtain ⟨he', hes'⟩ := h'
    refine ⟨⟨he, he'⟩, ?_⟩
    cases hs : step s e with
    | none => trivial
    | some t =>
      rw [hs] at hes hes'
      exact ih hes hes'

/-- A condition that holds along a run holds along its beginnings. -/
theorem RunAll.initial {ok : σ → ε → Prop} {s : σ} {pre es : List ε} (h : RunAll step ok s es)
    (hpre : pre <+: es) : RunAll step ok s pre := by
  induction pre generalizing s es with
  | nil => trivial
  | cons e pre ih =>
    obtain ⟨rest, rfl⟩ := hpre
    refine ⟨h.1, ?_⟩
    cases hs : step s e with
    | none => trivial
    | some t => exact ih ((runAll_cons hs).mp h).2 (List.prefix_append _ _)

/-- The condition of a run holds at each event that it comes to. -/
theorem RunAll.holds_at {ok : σ → ε → Prop} {s t : σ} {e : ε} {pre es : List ε}
    (h : RunAll step ok s es) (hpre : pre ++ [e] <+: es) (hrun : run step s pre = some t) :
    ok t e := by
  induction pre generalizing s es with
  | nil =>
    obtain ⟨rest, rfl⟩ := hpre
    obtain rfl := Option.some.inj hrun
    exact h.1
  | cons first pre ih =>
    obtain ⟨rest, rfl⟩ := hpre
    obtain ⟨u, hu, hrun⟩ := run_cons_eq_some.mp hrun
    exact ih ((runAll_cons hu).mp h).2 (List.prefix_append _ _) hrun

/-- The condition holds along a run exactly when it holds at each event that the run comes to. -/
theorem runAll_iff_holds_at {ok : σ → ε → Prop} {s : σ} {es : List ε} :
    RunAll step ok s es ↔
      ∀ pre e, pre ++ [e] <+: es → ∀ t, run step s pre = some t → ok t e := by
  constructor
  · exact fun h pre e hpre t ht => h.holds_at hpre ht
  · intro h
    induction es generalizing s with
    | nil => trivial
    | cons e es ih =>
      refine ⟨h [] e (List.prefix_append [e] es) s rfl, ?_⟩
      cases hs : step s e with
      | none => trivial
      | some t =>
        refine ih fun pre e' hpre u hu => h (e :: pre) e' ?_ u ?_
        · exact List.cons_prefix_cons.mpr ⟨rfl, hpre⟩
        · rw [run, hs]
          exact hu

/-- An invariant that holds at the start and is kept by every step that meets the condition holds
at the end of a run whose steps all meet it. -/
theorem run_invariant {inv : σ → Prop} {ok : σ → ε → Prop}
    (hstep : ∀ s e s', inv s → ok s e → step s e = some s' → inv s') {s s' : σ} {es : List ε}
    (hs : inv s) (hok : RunAll step ok s es) (h : run step s es = some s') : inv s' := by
  induction es generalizing s with
  | nil => exact Option.some.inj h ▸ hs
  | cons e es ih =>
    obtain ⟨t, ht, hrest⟩ := run_cons_eq_some.mp h
    obtain ⟨he, hes⟩ := (runAll_cons ht).mp hok
    exact ih (hstep s e t hs he ht) hes hrest

/-- An invariant may use another one that every step keeps, whatever the condition. -/
theorem run_invariant_under {aux inv : σ → Prop} {ok : σ → ε → Prop}
    (haux : ∀ s e s', aux s → step s e = some s' → aux s')
    (hstep : ∀ s e s', aux s → inv s → ok s e → step s e = some s' → inv s') {s s' : σ}
    {es : List ε} (hs : aux s) (hinv : inv s) (hok : RunAll step ok s es)
    (h : run step s es = some s') : aux s' ∧ inv s' := by
  have hboth : ∀ s e s', (aux s ∧ inv s) → ok s e → step s e = some s' → aux s' ∧ inv s' := by
    rintro s e s' ⟨hs, hinv⟩ hok hnext
    exact ⟨haux s e s' hs hnext, hstep s e s' hs hinv hok hnext⟩
  exact run_invariant hboth ⟨hs, hinv⟩ hok h

/-- An invariant that every step keeps holds at the end of every run. -/
theorem run_invariant_of_step {inv : σ → Prop}
    (hstep : ∀ s e s', inv s → step s e = some s' → inv s') {s s' : σ} {es : List ε}
    (hs : inv s) (h : run step s es = some s') : inv s' := by
  induction es generalizing s with
  | nil => exact Option.some.inj h ▸ hs
  | cons e es ih =>
    obtain ⟨t, ht, hrest⟩ := run_cons_eq_some.mp h
    exact ih (hstep s e t hs ht) hrest

/-- Let `rel s fs t` relate a state to the state of another system after the events `fs`. If every
step from a related state is matched by some steps of the other system, which may be none, then so
is every run. -/
theorem run_simulation {τ φ : Type} {step' : τ → φ → Option τ} {rel : σ → List φ → τ → Prop}
    (hstep : ∀ s e s' fs t, rel s fs t → step s e = some s' →
      ∃ more t', run step' t more = some t' ∧ rel s' (fs ++ more) t') {s s' : σ} {t : τ}
    {es : List ε} (hs : rel s [] t) (h : run step s es = some s') :
    ∃ fs t', run step' t fs = some t' ∧ rel s' fs t' := by
  have hmatched : ∀ s e s', (∃ fs u, run step' t fs = some u ∧ rel s fs u) → step s e = some s' →
      ∃ fs u, run step' t fs = some u ∧ rel s' fs u := by
    rintro s e s' ⟨fs, u, hrun, hrel⟩ hnext
    obtain ⟨more, u', hmore, hrel'⟩ := hstep s e s' fs u hrel hnext
    refine ⟨fs ++ more, u', ?_, hrel'⟩
    rw [run_append, hrun]
    exact hmore
  exact run_invariant_of_step hmatched ⟨[], t, rfl, hs⟩ h

/-- A relation between the accounts of two states, and what the steps between them bring in, holds
along a run when it holds of no step, of one, and of two parts of a run put together. -/
theorem run_account {α : Type} {see : σ → ε → Option α} {ok : σ → ε → Prop}
    {rel : σ → List α → σ → Prop} (hnil : ∀ s, rel s [] s)
    (hcons : ∀ {s t s' seen seen'}, rel s seen t → rel t seen' s' → rel s (seen ++ seen') s')
    (hstep : ∀ s e s', ok s e → step s e = some s' → rel s (see s e).toList s') {s s' : σ}
    {es : List ε} (hok : RunAll step ok s es) (h : run step s es = some s') :
    rel s (observe step see s es) s' := by
  induction es generalizing s with
  | nil => exact Option.some.inj h ▸ hnil s
  | cons e es ih =>
    obtain ⟨t, ht, hrest⟩ := run_cons_eq_some.mp h
    obtain ⟨he, hes⟩ := (runAll_cons ht).mp hok
    rw [observe, ht]
    exact hcons (hstep s e t he ht) (ih hes hrest)

/-- Let `inv` be kept by the steps that meet the condition, let it imply `good`, and let a step that
breaks the condition in a state with `inv` lead out of `good`. Then a run meets the condition at
every step exactly when every state that it passes through is `good`. -/
theorem runAll_iff_forall_prefix {inv good : σ → Prop} {ok : σ → ε → Prop}
    (hgood : ∀ s, inv s → good s)
    (hstep : ∀ s e s', inv s → ok s e → step s e = some s' → inv s')
    (hbad : ∀ s e s', inv s → ¬ ok s e → step s e = some s' → ¬ good s') {s s' : σ} {es : List ε}
    (hs : inv s) (h : run step s es = some s') :
    RunAll step ok s es ↔ ∀ pre, pre <+: es → ∀ t, run step s pre = some t → good t := by
  induction es generalizing s with
  | nil =>
    refine ⟨fun _ pre hpre t ht => ?_, fun _ => trivial⟩
    rw [List.prefix_nil.mp hpre] at ht
    exact Option.some.inj ht ▸ hgood s hs
  | cons e es ih =>
    obtain ⟨t, ht, hrest⟩ := run_cons_eq_some.mp h
    rw [runAll_cons ht]
    constructor
    · rintro ⟨he, hes⟩ pre hpre u hu
      cases pre with
      | nil => exact Option.some.inj hu ▸ hgood s hs
      | cons e' pre =>
        obtain ⟨rfl, htail⟩ := List.cons_prefix_cons.mp hpre
        obtain ⟨t', ht', hu⟩ := run_cons_eq_some.mp hu
        obtain rfl : t = t' := Option.some.inj (ht ▸ ht')
        exact (ih (hstep s e' t hs he ht) hrest).mp hes pre htail u hu
    · intro hall
      have he : ok s e := by
        by_contra he
        refine hbad s e t hs he ht (hall [e] ?_ t ?_)
        · exact List.cons_prefix_cons.mpr ⟨rfl, List.nil_prefix⟩
        · rw [run, ht]; rfl
      refine ⟨he, (ih (hstep s e t hs he ht) hrest).mpr fun pre hpre u hu => ?_⟩
      refine hall (e :: pre) (List.cons_prefix_cons.mpr ⟨rfl, hpre⟩) u ?_
      rw [run, ht]
      exact hu

/-- In the states of an invariant, let a step be `good`, wherever it leads, exactly when it meets
the condition. Then the steps that a run comes to are `good` exactly when they meet the condition.
-/
theorem forall_step_iff_runAll {inv : σ → Prop} {good : σ → ε → σ → Prop} {ok : σ → ε → Prop}
    (hstep : ∀ s e s', inv s → step s e = some s' → inv s')
    (hgood : ∀ s e, inv s → ((∀ s', step s e = some s' → good s e s') ↔ ok s e)) {s : σ}
    (hs : inv s) (es : List ε) :
    (∀ pre e, pre ++ [e] <+: es → ∀ t t', run step s pre = some t → step t e = some t' →
        good t e t') ↔
      RunAll step ok s es := by
  have hinv : ∀ pre t, run step s pre = some t → inv t :=
    fun pre t hrun => run_invariant_of_step hstep hs hrun
  rw [runAll_iff_holds_at]
  constructor
  · intro hall pre e hpre t hrun
    exact (hgood t e (hinv pre t hrun)).mp fun t' => hall pre e hpre t t' hrun
  · intro hok pre e hpre t t' hrun hnext
    exact (hgood t e (hinv pre t hrun)).mpr (hok pre e hpre t hrun) t' hnext

/-- Two rounds over the events, one for each of their parts, are one round over the events. -/
theorem foldl_rounds {early late : σ → ε → σ}
    (hcomm : ∀ s e e', early (late s e) e' = late (early s e') e) (s : σ) (es : List ε) :
    es.foldl late (es.foldl early s) = es.foldl (fun s e => late (early s e) e) s := by
  induction es generalizing s with
  | nil => rfl
  | cons e es ih =>
    have hlate : es.foldl early (late (early s e) e) = late (es.foldl early (early s e)) e :=
      List.foldl_hom (fun s => late s e) fun s e' => hcomm s e e'
    rw [List.foldl_cons, List.foldl_cons, List.foldl_cons, ← hlate, ih]

end PgNats.Run
