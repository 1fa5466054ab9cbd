import PgNats.Launcher.Context
import PgNats.Lib.Run

/-!
# The launcher's main loop

The model of `background_worker_launcher_main` in `src/bgw/launcher/mod.rs`, as a step function over
the launcher alone. `fetch_database_oids` gives a list of databases, and a worker is started for
each. Then the launcher waits for its latch: each time it wakes, it waits for the terminated workers
and drains the bus, and when it is told to stop, it shuts all workers down and waits for them.

What comes from outside is in the events. A buffer of the bus is what `postcard::from_bytes` makes
of it, and the starts and the forwards succeed or fail as they like. The lists of the entries
started, terminated and waited for, and of the messages forwarded, are histories that the code does
not keep. `transition_of_step` lists what a step can do.
-/

namespace PgNats

/-- Where the launcher stands. -/
inductive Launcher.Phase where
  /-- In `add_subscribe_workers`, with these databases to do. -/
  | starting (oids : List Oid)
  /-- In `wait_latch`. -/
  | waiting
  /-- In `process_launcher_bus`. -/
  | draining
  /-- After `shutdown_all_workers`. -/
  | stopping
  /-- Returned. -/
  | exited
  deriving DecidableEq

/-- The launcher and what it has done. -/
structure Launcher where
  /-- Where it stands. -/
  phase : Launcher.Phase
  /-- Its context. -/
  ctx : LauncherContext
  /-- The entries started. -/
  started : List WorkerEntry
  /-- The entries terminated. -/
  terminated : List WorkerEntry
  /-- The entries passed to `wait_for_shutdown`. -/
  waited : List WorkerEntry
  /-- The messages that reached the queue of a worker. -/
  sent : List (WorkerEntry × SubscriberMessage)
  deriving DecidableEq

namespace Launcher

/-- The launcher before `add_subscribe_workers`. -/
def init (oids : List Oid) : Launcher where
  phase := .starting oids
  ctx := .default
  started := []
  terminated := []
  waited := []
  sent := []

/-- What happens to the launcher. -/
inductive Event where
  /-- The next database of the list gets its worker, named if the start succeeds, or the list is
  done. -/
  | boot (started : Option String)
  /-- `wait_latch` returns, with whether the launcher goes on. -/
  | latch (alive : Bool)
  /-- `try_recv` returns a buffer, which holds a message or is not decoded. A start for it gives
  `started`, and a forward succeeds if `delivered`. -/
  | recv (msg : Option LauncherMessage) (started : Option String) (delivered : Bool)
  /-- `try_recv` returns nothing. -/
  | empty
  /-- The last workers are waited for. -/
  | finish
  deriving DecidableEq

/-- The effect of a handler enters the histories. A failed forward is only logged. -/
def perform (delivered : Bool) (s : Launcher) : Effect → Launcher
  | .start entry => { s with started := s.started ++ [entry] }
  | .terminate entry => { s with terminated := s.terminated ++ [entry] }
  | .send entry msg => if delivered then { s with sent := s.sent ++ [(entry, msg)] } else s

/-- `process_terminated_workers`, with the waits. -/
def waitTerminated (s : Launcher) : Launcher := { s with
  ctx := s.ctx.processTerminatedWorkers
  waited := s.waited ++ s.ctx.terminated_workers.values }

/-- One step, if it is possible. -/
def step (s : Launcher) : Event → Option Launcher
  | .boot started => match s.phase with
    | .starting (oid :: oids) =>
      let (ctx, effect) := s.ctx.startSubscribeWorker oid started
      some (effect.toList.foldl (perform true) { s with phase := .starting oids, ctx })
    | .starting [] => some { s with phase := .waiting }
    | _ => none
  | .latch true => match s.phase with
    | .waiting => some { s.waitTerminated with phase := .draining }
    | _ => none
  | .latch false => match s.phase with
    | .waiting =>
      let (ctx, effects) := s.ctx.shutdownAllWorkers
      some (effects.foldl (perform true) { s with phase := .stopping, ctx })
    | _ => none
  | .recv msg started delivered => match s.phase with
    | .draining => match msg with
      | some msg =>
        let (ctx, effect) := s.ctx.handle started msg
        some (effect.toList.foldl (perform delivered) { s with ctx })
      -- A buffer that is not decoded is skipped.
      | none => some s
    | _ => none
  | .empty => match s.phase with
    | .draining => some { s with phase := .waiting }
    | _ => none
  | .finish => match s.phase with
    | .stopping => some { s.waitTerminated with phase := .exited }
    | _ => none

/-- What a step can do. -/
inductive Transition (s : Launcher) : Event → Launcher → Prop where
  /-- A worker is started. -/
  | started {oid : Oid} {oids : List Oid} {db_name : String}
    (hphase : s.phase = .starting (oid :: oids)) :
    Transition s (.boot (some db_name)) { s with
      phase := .starting oids
      ctx := { s.ctx with
        counter := s.ctx.counter + 1
        pending_workers := s.ctx.pending_workers.insert oid ⟨db_name, oid, s.ctx.counter⟩ }
      started := s.started ++ [⟨db_name, oid, s.ctx.counter⟩] }
  /-- A worker is not started. -/
  | notStarted {oid : Oid} {oids : List Oid} (hphase : s.phase = .starting (oid :: oids)) :
    Transition s (.boot none) { s with phase := .starting oids }
  /-- The list of databases is done. -/
  | booted {started : Option String} (hphase : s.phase = .starting []) :
    Transition s (.boot started) { s with phase := .waiting }
  /-- The terminated workers are waited for, and a drain begins. -/
  | woken (hphase : s.phase = .waiting) :
    Transition s (.latch true) { s.waitTerminated with phase := .draining }
  /-- All workers are shut down. -/
  | stopped (hphase : s.phase = .waiting) :
    Transition s (.latch false) { s with
      phase := .stopping
      ctx := s.ctx.shutdownAllWorkers.1
      terminated := s.terminated ++ (s.ctx.workers.values ++ s.ctx.pending_workers.values) }
  /-- A message is handled. -/
  | handled {msg : LauncherMessage} {started : Option String} {delivered : Bool}
    {ctx : LauncherContext} {effect : Option Effect} (hphase : s.phase = .draining)
    (hhandling : Handling s.ctx started msg ctx effect) :
    Transition s (.recv (some msg) started delivered)
      (effect.toList.foldl (perform delivered) { s with ctx })
  /-- A buffer is skipped. -/
  | skipped {started : Option String} {delivered : Bool} (hphase : s.phase = .draining) :
    Transition s (.recv none started delivered) s
  /-- The bus is empty. -/
  | drained (hphase : s.phase = .draining) : Transition s .empty { s with phase := .waiting }
  /-- The last workers are waited for. -/
  | finished (hphase : s.phase = .stopping) :
    Transition s .finish { s.waitTerminated with phase := .exited }

/-- The loop of a shutdown terminates each entry, and files it under its own database. -/
theorem shutdownEntries_eq (ctx : LauncherContext) (entries : List WorkerEntry) :
    ctx.shutdownEntries entries = ({ ctx with
      terminated_workers := entries.foldl (fun m entry => m.insert entry.oid entry)
        ctx.terminated_workers }, entries.map Effect.terminate) := by
  induction entries generalizing ctx with
  | nil => rfl
  | cons entry entries ih =>
    unfold LauncherContext.shutdownEntries LauncherContext.shutdownWorkerEntry
    dsimp only
    rw [ih]
    rfl

/-- The end of the launcher empties the two maps of live workers. -/
theorem shutdownAllWorkers_eq (ctx : LauncherContext) :
    ctx.shutdownAllWorkers = ({ ctx with
      workers := ∅
      pending_workers := ∅
      terminated_workers := (ctx.workers.values ++ ctx.pending_workers.values).foldl
        (fun m entry => m.insert entry.oid entry) ctx.terminated_workers },
      (ctx.workers.values ++ ctx.pending_workers.values).map Effect.terminate) := by
  unfold LauncherContext.shutdownAllWorkers
  simp only [shutdownEntries_eq, List.foldl_append, List.map_append]

/-- Terminations enter their history in order, and nothing else changes. -/
theorem foldl_perform_terminate (delivered : Bool) (s : Launcher) (entries : List WorkerEntry) :
    (entries.map Effect.terminate).foldl (perform delivered) s =
      { s with terminated := s.terminated ++ entries } := by
  induction entries generalizing s with
  | nil => rw [List.append_nil]; rfl
  | cons entry entries ih =>
    rw [List.map_cons, List.foldl_cons, ih]
    unfold perform
    rw [List.append_assoc, List.singleton_append]

/-- Performing an effect does not change where the launcher stands, nor its context. -/
theorem foldl_perform (delivered : Bool) (s : Launcher) (effect : Option Effect) :
    (effect.toList.foldl (perform delivered) s).phase = s.phase ∧
      (effect.toList.foldl (perform delivered) s).ctx = s.ctx := by
  cases effect with
  | none => exact ⟨rfl, rfl⟩
  | some effect =>
    cases effect with
    | send entry msg => cases delivered <;> exact ⟨rfl, rfl⟩
    | _ => exact ⟨rfl, rfl⟩

/-- A step does one of the things listed. -/
theorem transition_of_step {s s' : Launcher} {e : Event} (h : s.step e = some s') :
    Transition s e s' := by
  unfold step at h
  split at h
  · next started =>
    split at h
    · next oid oids hphase =>
      cases started with
      | some db_name => exact Option.some.inj h ▸ .started hphase
      | none => exact Option.some.inj h ▸ .notStarted hphase
    · next hphase => exact Option.some.inj h ▸ .booted hphase
    · exact absurd h (by simp)
  · split at h
    · next hphase => exact Option.some.inj h ▸ .woken hphase
    · exact absurd h (by simp)
  · split at h
    · next hphase =>
      rw [shutdownAllWorkers_eq] at h
      have heq := Option.some.inj h
      rw [foldl_perform_terminate] at heq
      have hstop := Transition.stopped (s := s) hphase
      rw [shutdownAllWorkers_eq] at hstop
      exact heq ▸ hstop
    · exact absurd h (by simp)
  · next msg started delivered =>
    split at h
    · next hphase =>
      cases msg with
      | some msg =>
        exact Option.some.inj h ▸ .handled hphase
          (LauncherContext.handling_of_handle s.ctx started msg)
      | none => exact Option.some.inj h ▸ .skipped hphase
    · exact absurd h (by simp)
  · split at h
    · next hphase => exact Option.some.inj h ▸ .drained hphase
    · exact absurd h (by simp)
  · split at h
    · next hphase => exact Option.some.inj h ▸ .finished hphase
    · exact absurd h (by simp)

end Launcher

end PgNats
