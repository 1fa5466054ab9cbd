import PgNats.Lib.Run
import PgNats.NatsClient.Basic

/-!
# The cached handles and the connection

`Fresh` says that every cached handle belongs to the current connection, and that there is none
without a connection. Opening a connection happens only when there is none, and a handle is obtained
through the current context, so every operation keeps `Fresh` but an invalidation. That one clears
the buckets and leaves the object stores, which then belong to a closed connection.

`fresh_iff_invalidations_safe` is the exact condition for whole runs: all states of a run are
`Fresh`, and all its operations call the current connection, exactly when no invalidation of the run
finds a cached object store.
-/

namespace PgNats.NatsClient

open Run (RunAll)

/-- Every cached handle belongs to the current connection. -/
structure Fresh (c : NatsClient) : Prop where
  /-- Every bucket was obtained through the current connection. -/
  buckets : ∀ bucket store, c.cached_buckets.lookup bucket = some store →
    c.connection = some store.jetstream.client
  /-- Every object store was obtained through the current connection. -/
  object_stores : ∀ bucket store, c.cached_object_stores.lookup bucket = some store →
    c.connection = some store.jetstream.client
  /-- Without a connection, nothing is cached. -/
  none_cached : c.connection = none → c.cached_buckets = ∅ ∧ c.cached_object_stores = ∅

/-- The handles are fresh, and the context is that of the connection. -/
structure Coherent (c : NatsClient) : Prop where
  /-- The cached handles belong to the current connection. -/
  fresh : Fresh c
  /-- The context was made on the current connection. -/
  linked : c.jetstream = c.connection.map JetStream.mk

/-- What an operation leaves, when it gets the connection of the handle that it calls. -/
structure Served (r : NatsClient × Except Failure Client) : Prop where
  /-- The client is coherent. -/
  coherent : Coherent r.1
  /-- The handle belongs to the current connection. -/
  current : ∀ client, r.2 = .ok client → r.1.connection = some client

/-! ## The operations on a coherent client -/

/-- A refused operation calls no handle. -/
theorem served_refused {c : NatsClient} {e : Failure} (h : Coherent c) : Served (c, .error e) :=
  ⟨h, fun client hok => absurd hok (by simp)⟩

/-- A bucket obtained through the current connection may be cached. -/
theorem Coherent.cache_bucket {c : NatsClient} (h : Coherent c) {jetstream : JetStream}
    (hconn : c.connection = some jetstream.client) (bucket : String) :
    Coherent { c with cached_buckets := c.cached_buckets.insert bucket { bucket, jetstream } } := by
  refine ⟨⟨fun b store hstore => ?_, h.fresh.object_stores, fun hno => ?_⟩, h.linked⟩
  · dsimp only at hstore ⊢
    rcases HashMap.lookup_insert_eq_some hstore with ⟨-, rfl⟩ | hold
    · exact hconn
    · exact h.fresh.buckets b store hold
  · exact absurd (hconn.symm.trans hno) (by simp)

/-- An object store obtained through the current connection may be cached. -/
theorem Coherent.cache_object_store {c : NatsClient} (h : Coherent c) {jetstream : JetStream}
    (hconn : c.connection = some jetstream.client) (bucket : String) :
    Coherent { c with
      cached_object_stores := c.cached_object_stores.insert bucket { bucket, jetstream } } := by
  refine ⟨⟨h.fresh.buckets, fun b store hstore => ?_, fun hno => ?_⟩, h.linked⟩
  · dsimp only at hstore ⊢
    rcases HashMap.lookup_insert_eq_some hstore with ⟨-, rfl⟩ | hold
    · exact hconn
    · exact h.fresh.object_stores b store hold
  · exact absurd (hconn.symm.trans hno) (by simp)

section Operations

variable {c : NatsClient} (h : Coherent c) (a : Answers)
include h

/-- After the first step of an operation there is a connection, or the operation fails. -/
theorem coherent_ensureConnection : Coherent (c.ensureConnection a).1 ∧
    ((c.ensureConnection a).2 = .ok () →
      ∃ client, (c.ensureConnection a).1.connection = some client) := by
  rcases ensureConnection_cases c a with
    ⟨client, hconn, hens⟩ | ⟨hconn, -, client, -, hens⟩ | ⟨-, -, hens⟩
  · rw [hens]
    exact ⟨h, fun _ => ⟨client, hconn⟩⟩
  · -- Nothing is cached, so nothing is stale on the new connection.
    obtain ⟨hbuckets, hstores⟩ := h.fresh.none_cached hconn
    rw [hens]
    refine ⟨⟨⟨fun b store hstore => ?_, fun b store hstore => ?_, fun hno => ?_⟩, rfl⟩,
      fun _ => ⟨client, rfl⟩⟩
    · dsimp only at hstore
      rw [hbuckets, AList.lookup_empty] at hstore
      exact absurd hstore (by simp)
    · dsimp only at hstore
      rw [hstores, AList.lookup_empty] at hstore
      exact absurd hstore (by simp)
    · exact absurd hno (by simp)
  · rw [hens]
    exact ⟨⟨⟨h.fresh.buckets, h.fresh.object_stores, h.fresh.none_cached⟩, h.linked⟩,
      fun hok => absurd hok (by simp)⟩

/-- `get_connection` returns the current connection. -/
theorem served_getConnection : Served (c.getConnection a) := by
  obtain ⟨hcoh, hconn⟩ := coherent_ensureConnection h a
  unfold getConnection
  generalize c.ensureConnection a = r at hcoh hconn
  obtain ⟨c', _ | _⟩ := r
  · exact ⟨hcoh, fun client hok => absurd hok (by simp)⟩
  · obtain ⟨client, hclient⟩ := hconn rfl
    refine ⟨hcoh, fun client' hok => ?_⟩
    dsimp only at hclient hok ⊢
    rw [hclient] at hok
    rw [hclient, Except.ok.inj hok]

/-- `get_jetstream` returns the context of the current connection. -/
theorem coherent_getJetstream : Coherent (c.getJetstream a).1 ∧
    ∀ jetstream, (c.getJetstream a).2 = .ok jetstream →
      (c.getJetstream a).1.connection = some jetstream.client := by
  obtain ⟨hcoh, hconn⟩ := coherent_ensureConnection h a
  unfold getJetstream
  generalize c.ensureConnection a = r at hcoh hconn
  obtain ⟨c', _ | _⟩ := r
  · exact ⟨hcoh, fun jetstream hok => absurd hok (by simp)⟩
  · obtain ⟨client, hclient⟩ := hconn rfl
    have hlinked := hcoh.linked
    refine ⟨hcoh, fun jetstream hok => ?_⟩
    dsimp only at hclient hok hlinked ⊢
    rw [hlinked, hclient, Option.map_some] at hok
    rw [hclient, ← Except.ok.inj hok]

/-- An operation on a bucket calls the current connection. -/
theorem served_onBucket (bucket : String) : Served (c.onBucket bucket a) := by
  obtain ⟨hcoh, hjs⟩ := coherent_getJetstream h a
  rcases onBucket_cases c bucket a with
    ⟨store, hlook, hcall⟩ | ⟨-, ⟨e, -, hcall⟩ | ⟨jetstream, hok, hcall⟩ | hcall⟩
  · rw [hcall]
    refine ⟨h, fun client hok => ?_⟩
    rw [← Except.ok.inj hok]
    exact h.fresh.buckets bucket store hlook
  · rw [hcall]
    exact served_refused hcoh
  · have hclient := hjs jetstream hok
    rw [hcall]
    refine ⟨hcoh.cache_bucket hclient bucket, fun client hok => ?_⟩
    rw [← Except.ok.inj hok]
    exact hclient
  · rw [hcall]
    exact served_refused hcoh

/-- An operation on an object store calls the current connection. -/
theorem served_onObjectStore (store : String) : Served (c.onObjectStore store a) := by
  obtain ⟨hcoh, hjs⟩ := coherent_getJetstream h a
  rcases onObjectStore_cases c store a with
    ⟨handle, hlook, hcall⟩ | ⟨-, ⟨e, -, hcall⟩ | ⟨jetstream, hok, hcall⟩ | hcall⟩
  · rw [hcall]
    refine ⟨h, fun client hok => ?_⟩
    rw [← Except.ok.inj hok]
    exact h.fresh.object_stores store handle hlook
  · rw [hcall]
    exact served_refused hcoh
  · have hclient := hjs jetstream hok
    rw [hcall]
    refine ⟨hcoh.cache_object_store hclient store, fun client hok => ?_⟩
    rw [← Except.ok.inj hok]
    exact hclient
  · rw [hcall]
    exact served_refused hcoh

end Operations

/-! ## Whole runs -/

/-- Whether the operation closes the connection: a forced reload, or a reload with other options. -/
def Invalidates (c : NatsClient) : Operation → Bool
  | .invalidateConnection => true
  | .checkAndInvalidateConnection new_config => c.changed new_config
  | _ => false

/-- An invalidation finds no cached object store. -/
def Safe (c : NatsClient) (e : Operation × Answers) : Prop :=
  c.Invalidates e.1 = true → c.cached_object_stores = ∅

instance (c : NatsClient) (e : Operation × Answers) : Decidable (Safe c e) :=
  inferInstanceAs (Decidable (_ → _))

/-- One operation, which is always possible. -/
def step (c : NatsClient) (e : Operation × Answers) : Option NatsClient :=
  some (c.perform e.2 e.1).1

/-- The handles are fresh, and whatever operation comes next calls the connection that is current
after it. -/
structure Good (c : NatsClient) : Prop where
  /-- The cached handles belong to the current connection. -/
  fresh : Fresh c
  /-- The next operation uses no handle of another connection. -/
  current : ∀ a op client, (c.perform a op).2 = .ok (some client) →
    (c.perform a op).1.connection = some client

/-- An operation that calls NATS calls the current connection. -/
theorem Served.map {r : NatsClient × Except Failure Client} (h : Served r) :
    Coherent (r.map id (Except.map some)).1 ∧
      ∀ client, (r.map id (Except.map some)).2 = .ok (some client) →
        (r.map id (Except.map some)).1.connection = some client := by
  obtain ⟨c, _ | client⟩ := r
  · exact ⟨h.coherent, fun client hok => absurd hok (by simp [Except.map])⟩
  · refine ⟨h.coherent, fun client' hok => h.current client' ?_⟩
    exact congrArg Except.ok (Option.some.inj (Except.ok.inj hok))

/-- `put_value` calls the current connection, or is refused when the handle is there. -/
theorem served_putValue {c : NatsClient} (h : Coherent c) (bucket : String) (encoded : Bool)
    (a : Answers) : Served (c.putValue bucket encoded a) := by
  have hserved := served_onBucket h a bucket
  unfold putValue
  generalize c.onBucket bucket a = r at hserved
  obtain ⟨c', _ | client⟩ := r
  · exact hserved
  · cases encoded with
    | false => exact served_refused hserved.coherent
    | true => exact hserved

/-- `publish_stream` calls the current connection. -/
theorem served_publishStream {c : NatsClient} (h : Coherent c) (encoded : Bool) (a : Answers) :
    Served (c.publishStream encoded a) := by
  unfold publishStream
  split_ifs
  · obtain ⟨hcoh, hjs⟩ := coherent_getJetstream h a
    generalize c.getJetstream a = r at hcoh hjs
    obtain ⟨c', _ | jetstream⟩ := r
    · exact ⟨hcoh, fun client hok => absurd hok (by simp)⟩
    · refine ⟨hcoh, fun client hok => ?_⟩
      rw [← Except.ok.inj hok]
      exact hjs jetstream rfl
  · exact served_refused h

/-- A message that is not encoded is refused before the connection is needed. -/
theorem served_publish {c : NatsClient} (h : Coherent c) (encoded : Bool) (a : Answers) :
    Served (c.publish encoded a) := by
  unfold publish
  split_ifs
  · exact served_getConnection h a
  · exact served_refused h

/-- Every operation calls the current connection, and keeps the client coherent unless it
invalidates. -/
theorem coherent_perform {c : NatsClient} (h : Coherent c) (a : Answers) (op : Operation) :
    (c.Invalidates op = false → Coherent (c.perform a op).1) ∧
      ∀ client, (c.perform a op).2 = .ok (some client) →
        (c.perform a op).1.connection = some client := by
  have hserved : ∀ r : NatsClient × Except Failure Client, Served r →
      (c.Invalidates op = false → Coherent (r.map id (Except.map some)).1) ∧
        ∀ client, (r.map id (Except.map some)).2 = .ok (some client) →
          (r.map id (Except.map some)).1.connection = some client :=
    fun r hr => ⟨fun _ => hr.map.1, hr.map.2⟩
  cases op with
  | publish encoded => exact hserved _ (served_publish h encoded a)
  | request encoded => exact hserved _ (served_publish h encoded a)
  | publishStream encoded => exact hserved _ (served_publishStream h encoded a)
  | getServerInfo => exact hserved _ (served_getConnection h a)
  | putValue bucket encoded => exact hserved _ (served_putValue h bucket encoded a)
  | getValue bucket => exact hserved _ (served_onBucket h a bucket)
  | deleteValue bucket => exact hserved _ (served_onBucket h a bucket)
  | getFile store => exact hserved _ (served_onObjectStore h a store)
  | putFile store => exact hserved _ (served_onObjectStore h a store)
  | deleteFile store => exact hserved _ (served_onObjectStore h a store)
  | getFileInfo store => exact hserved _ (served_onObjectStore h a store)
  | getFileList store => exact hserved _ (served_onObjectStore h a store)
  -- The two that may invalidate call no handle at all.
  | invalidateConnection =>
    refine ⟨fun hno => absurd hno (by simp [Invalidates]), fun client hok => ?_⟩
    exact absurd (Except.ok.inj hok) (by simp)
  | checkAndInvalidateConnection new_config =>
    refine ⟨fun hno => ?_, fun client hok => absurd (Except.ok.inj hok) (by simp)⟩
    have hsame : c.changed new_config = false := hno
    show Coherent (c.checkAndInvalidateConnection new_config)
    unfold checkAndInvalidateConnection
    rw [hsame, if_neg Bool.false_ne_true]
    exact h

/-- After an invalidation there is no connection, and the object stores are as before. -/
theorem perform_invalidates {c : NatsClient} {op : Operation} (h : c.Invalidates op = true)
    (a : Answers) : (c.perform a op).1.connection = none ∧ (c.perform a op).1.jetstream = none ∧
      (c.perform a op).1.cached_buckets = ∅ ∧
      (c.perform a op).1.cached_object_stores = c.cached_object_stores := by
  cases op with
  | invalidateConnection => exact ⟨rfl, rfl, rfl, rfl⟩
  | checkAndInvalidateConnection new_config =>
    have hchanged : c.changed new_config = true := h
    have hclosed : (c.perform a (.checkAndInvalidateConnection new_config)).1
        = { c.invalidateConnection with current_config := some new_config } := by
      show c.checkAndInvalidateConnection new_config = _
      unfold checkAndInvalidateConnection
      rw [hchanged, if_pos rfl]
    rw [hclosed]
    exact ⟨rfl, rfl, rfl, rfl⟩
  | _ => exact absurd h Bool.false_ne_true

/-- A client without connection, context, and cached handles is coherent. -/
theorem coherent_of_none {c : NatsClient} (hconn : c.connection = none)
    (hjs : c.jetstream = none) (hbuckets : c.cached_buckets = ∅)
    (hstores : c.cached_object_stores = ∅) : Coherent c := by
  refine ⟨⟨fun b store hstore => ?_, fun b store hstore => ?_, fun _ => ⟨hbuckets, hstores⟩⟩, ?_⟩
  · rw [hbuckets, AList.lookup_empty] at hstore
    exact absurd hstore (by simp)
  · rw [hstores, AList.lookup_empty] at hstore
    exact absurd hstore (by simp)
  · rw [hconn, hjs, Option.map_none]

/-- A safe operation keeps the client coherent. -/
theorem coherent_step {c c' : NatsClient} {e : Operation × Answers} (h : Coherent c)
    (hsafe : Safe c e) (hstep : step c e = some c') : Coherent c' := by
  obtain rfl : (c.perform e.2 e.1).1 = c' := Option.some.inj hstep
  cases hinv : c.Invalidates e.1 with
  | false => exact (coherent_perform h e.2 e.1).1 hinv
  | true =>
    -- All is dropped but the object stores, and the condition says that there are none.
    obtain ⟨hconn, hjs, hbuckets, hstores⟩ := perform_invalidates hinv e.2
    exact coherent_of_none hconn hjs hbuckets (hstores.trans (hsafe hinv))

/-- An unsafe invalidation leaves a cached object store without its connection. -/
theorem not_good_of_not_safe {c c' : NatsClient} {e : Operation × Answers} (hsafe : ¬ Safe c e)
    (hstep : step c e = some c') : ¬ Good c' := by
  obtain rfl : (c.perform e.2 e.1).1 = c' := Option.some.inj hstep
  obtain ⟨hinv, hcached⟩ := Classical.not_imp.mp hsafe
  obtain ⟨hconn, -, -, hstores⟩ := perform_invalidates hinv e.2
  intro hgood
  exact hcached (hstores ▸ (hgood.fresh.none_cached hconn).2)

/-- For every sequence of operations and answers: all states of the run are good exactly when every
invalidation of the run finds no cached object store. -/
theorem fresh_iff_invalidations_safe (config : Option Config) (es : List (Operation × Answers)) :
    (∀ pre, pre <+: es → ∀ c, Run.run step (new config) pre = some c → Good c) ↔
      RunAll step Safe (new config) es := by
  have hnew : Coherent (new config) := coherent_of_none rfl rfl rfl rfl
  have hgood : ∀ c, Coherent c → Good c :=
    fun c h => ⟨h.fresh, fun a op => (coherent_perform h a op).2⟩
  have hkeep : ∀ c e c', Coherent c → Safe c e → step c e = some c' → Coherent c' :=
    fun _ _ _ => coherent_step
  have hbad : ∀ c e c', Coherent c → ¬ Safe c e → step c e = some c' → ¬ Good c' :=
    fun _ _ _ _ => not_good_of_not_safe
  obtain ⟨c, hrun⟩ := Run.run_total (fun c e => ⟨_, rfl⟩) (new config) es
  exact (Run.runAll_iff_forall_prefix hgood hkeep hbad hnew hrun).symm

/-- An object store used before a forced reload is used again after it: its handle belongs to the
first connection, which was drained, also when the second connection is there. -/
theorem stale_object_store :
    ∃ c, Run.run step (new none)
        [(.getFile "files", ⟨parseConfig ∅, true, true, true⟩),
         (.invalidateConnection, ⟨parseConfig ∅, true, true, true⟩),
         (.getServerInfo, ⟨parseConfig ∅, true, true, true⟩)] = some c ∧
      c.connection = some ⟨1, (parseConfig ∅).nats_opt⟩ ∧
      (c.perform ⟨parseConfig ∅, true, true, true⟩ (.getFile "files")).2
        = .ok (some ⟨0, (parseConfig ∅).nats_opt⟩) :=
  ⟨_, rfl, rfl, rfl⟩

end PgNats.NatsClient
