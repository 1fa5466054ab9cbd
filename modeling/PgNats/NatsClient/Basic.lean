import PgNats.Connect
import PgNats.Lib.Collections

/-!
# A backend's NATS client

The model of `src/nats_client.rs`. A backend keeps one connection, the JetStream context on it, and
a cache of bucket and object store handles by name. Every operation opens the connection when there
is none. What an operation then does with its handle changes nothing in the client, so an operation
returns the connection that its handle belongs to, and `Answers` says what the outside answers on
the way. The four `expect` calls are failures of their own here.
-/

namespace PgNats

/-- `async_nats::jetstream::Context`. -/
structure JetStream where
  /-- The connection it was made on. -/
  client : Client
  deriving DecidableEq, Repr

/-- `kv::Store`. -/
structure Store where
  /-- The bucket. -/
  bucket : String
  /-- The context it was obtained through. -/
  jetstream : JetStream
  deriving DecidableEq, Repr

/-- `object_store::ObjectStore`. -/
structure ObjectStore where
  /-- The bucket. -/
  bucket : String
  /-- The context it was obtained through. -/
  jetstream : JetStream
  deriving DecidableEq, Repr

/-- `NatsClient`. The function `config_fetcher` is part of what the outside answers. -/
structure NatsClient where
  /-- The connection. -/
  connection : Option Client
  /-- The JetStream context. -/
  jetstream : Option JetStream
  /-- The bucket handles. -/
  cached_buckets : HashMap String Store
  /-- The object store handles. -/
  cached_object_stores : HashMap String ObjectStore
  /-- The configuration in use. -/
  current_config : Option Config
  /-- How many connections have been opened. -/
  opened : ℕ
  deriving DecidableEq

/-- What the outside answers during an operation. -/
structure Answers where
  /-- What `config_fetcher` returns. -/
  fetched : Config
  /-- Whether the connection is made, or `connect` gives an error. That it panics, as `async-nats`
  does for a capacity of 0, is not modelled. -/
  connected : Bool
  /-- Whether the bucket is found. -/
  found : Bool
  /-- Whether a bucket that is not found is created. -/
  created : Bool
  deriving DecidableEq, Repr

/-- Why an operation has no result. -/
inductive Failure where
  /-- It returns an error. -/
  | error
  /-- An `expect` finds `None`. -/
  | panic
  deriving DecidableEq, Repr

namespace NatsClient

/-- `NatsClient::new`. -/
def new (config : Option Config) : NatsClient where
  connection := none
  jetstream := none
  cached_buckets := ∅
  cached_object_stores := ∅
  current_config := config
  opened := 0

/-- `NatsClient::initialize_connection`. -/
def initializeConnection (c : NatsClient) (a : Answers) : NatsClient × Except Failure Unit :=
  -- `get_or_insert_with`: the fetcher is called only when no configuration is kept.
  let config := c.current_config.getD a.fetched
  if a.connected then
    let connection := { id := c.opened, opts := config.nats_opt }
    ({ c with current_config := some config, opened := c.opened + 1, connection := some connection,
              jetstream := some { client := connection } }, .ok ())
  -- `inspect_err`: the next attempt fetches the configuration again.
  else ({ c with current_config := none }, .error .error)

/-- `as_ref().expect("unreachable, must be initialized")`. -/
def expect {α : Type} : Option α → Except Failure α
  | some a => .ok a
  | none => .error .panic

/-- The connection, opened if there is none. -/
def ensureConnection (c : NatsClient) (a : Answers) : NatsClient × Except Failure Unit :=
  if c.connection.isNone then c.initializeConnection a else (c, .ok ())

/-- `NatsClient::get_connection`. -/
def getConnection (c : NatsClient) (a : Answers) : NatsClient × Except Failure Client :=
  match c.ensureConnection a with
  | (c, .error e) => (c, .error e)
  | (c, .ok ()) => (c, expect c.connection)

/-- `NatsClient::get_jetstream`. It tests the connection, not the context. -/
def getJetstream (c : NatsClient) (a : Answers) : NatsClient × Except Failure JetStream :=
  match c.ensureConnection a with
  | (c, .error e) => (c, .error e)
  | (c, .ok ()) => (c, expect c.jetstream)

/-- `NatsClient::get_or_create_bucket`. -/
def getOrCreateBucket (c : NatsClient) (bucket : String) (a : Answers) :
    NatsClient × Except Failure Store :=
  match c.cached_buckets.lookup bucket with
  | some store => (c, .ok store)
  | none =>
    match c.getJetstream a with
    | (c, .error e) => (c, .error e)
    | (c, .ok jetstream) =>
      -- A handle that is not found is created, and either is cached under the bucket's name.
      if a.found || a.created then
        let c := { c with cached_buckets := c.cached_buckets.insert bucket { bucket, jetstream } }
        (c, expect (c.cached_buckets.lookup bucket))
      else (c, .error .error)

/-- `NatsClient::get_or_create_object_store`. -/
def getOrCreateObjectStore (c : NatsClient) (bucket : String) (a : Answers) :
    NatsClient × Except Failure ObjectStore :=
  match c.cached_object_stores.lookup bucket with
  | some store => (c, .ok store)
  | none =>
    match c.getJetstream a with
    | (c, .error e) => (c, .error e)
    | (c, .ok jetstream) =>
      if a.found || a.created then
        let c := { c with
          cached_object_stores := c.cached_object_stores.insert bucket { bucket, jetstream } }
        (c, expect (c.cached_object_stores.lookup bucket))
      else (c, .error .error)

/-- `NatsClient::invalidate_connection`. The object stores stay in their cache. -/
def invalidateConnection (c : NatsClient) : NatsClient :=
  { c with connection := none, cached_buckets := ∅, jetstream := none, current_config := none }

/-- Whether `check_and_invalidate_connection` finds other options than those in use. -/
def changed (c : NatsClient) (new_config : Config) : Bool :=
  c.current_config.map Config.nats_opt ≠ some new_config.nats_opt

/-- `NatsClient::check_and_invalidate_connection`. -/
def checkAndInvalidateConnection (c : NatsClient) (new_config : Config) : NatsClient :=
  if c.changed new_config then { c.invalidateConnection with current_config := some new_config }
  else c

/-! ## The operations -/

/-- The operations of the client. `encoded` says whether `to_bytes` accepts the message. -/
inductive Operation where
  /-- `publish`, with or without a reply subject and headers. -/
  | publish (encoded : Bool)
  /-- `request`. -/
  | request (encoded : Bool)
  /-- `publish_stream`. -/
  | publishStream (encoded : Bool)
  /-- `get_server_info`. -/
  | getServerInfo
  /-- `put_value`. -/
  | putValue (bucket : String) (encoded : Bool)
  /-- `get_value`. -/
  | getValue (bucket : String)
  /-- `delete_value`. -/
  | deleteValue (bucket : String)
  /-- `get_file`. -/
  | getFile (store : String)
  /-- `put_file`. -/
  | putFile (store : String)
  /-- `delete_file`. -/
  | deleteFile (store : String)
  /-- `get_file_info`. -/
  | getFileInfo (store : String)
  /-- `get_file_list`. -/
  | getFileList (store : String)
  /-- `invalidate_connection`, which `pgnats_reload_conf_force` calls. -/
  | invalidateConnection
  /-- `check_and_invalidate_connection`, which `pgnats_reload_conf` calls. -/
  | checkAndInvalidateConnection (new_config : Config)
  deriving DecidableEq

/-- An operation on a bucket: the connection that the bucket's handle belongs to. -/
def onBucket (c : NatsClient) (bucket : String) (a : Answers) :
    NatsClient × Except Failure Client :=
  match c.getOrCreateBucket bucket a with
  | (c, .error e) => (c, .error e)
  | (c, .ok store) => (c, .ok store.jetstream.client)

/-- An operation on an object store: the connection that the store's handle belongs to. -/
def onObjectStore (c : NatsClient) (store : String) (a : Answers) :
    NatsClient × Except Failure Client :=
  match c.getOrCreateObjectStore store a with
  | (c, .error e) => (c, .error e)
  | (c, .ok store) => (c, .ok store.jetstream.client)

/-- `publish`. -/
def publish (c : NatsClient) (encoded : Bool) (a : Answers) : NatsClient × Except Failure Client :=
  if encoded then c.getConnection a else (c, .error .error)

/-- `request`. -/
def request (c : NatsClient) (encoded : Bool) (a : Answers) : NatsClient × Except Failure Client :=
  if encoded then c.getConnection a else (c, .error .error)

/-- `publish_stream`. -/
def publishStream (c : NatsClient) (encoded : Bool) (a : Answers) :
    NatsClient × Except Failure Client :=
  if encoded then
    match c.getJetstream a with
    | (c, .error e) => (c, .error e)
    | (c, .ok jetstream) => (c, .ok jetstream.client)
  else (c, .error .error)

/-- `get_server_info`. -/
def getServerInfo (c : NatsClient) (a : Answers) : NatsClient × Except Failure Client :=
  c.getConnection a

/-- `put_value`. The message is encoded when the handle is there. -/
def putValue (c : NatsClient) (bucket : String) (encoded : Bool) (a : Answers) :
    NatsClient × Except Failure Client :=
  match c.onBucket bucket a with
  | (c, .error e) => (c, .error e)
  | (c, .ok client) => (c, if encoded then .ok client else .error .error)

/-- `get_value`. -/
def getValue (c : NatsClient) (bucket : String) (a : Answers) :
    NatsClient × Except Failure Client :=
  c.onBucket bucket a

/-- `delete_value`. -/
def deleteValue (c : NatsClient) (bucket : String) (a : Answers) :
    NatsClient × Except Failure Client :=
  c.onBucket bucket a

/-- `get_file`. -/
def getFile (c : NatsClient) (store : String) (a : Answers) : NatsClient × Except Failure Client :=
  c.onObjectStore store a

/-- `put_file`. -/
def putFile (c : NatsClient) (store : String) (a : Answers) : NatsClient × Except Failure Client :=
  c.onObjectStore store a

/-- `delete_file`. -/
def deleteFile (c : NatsClient) (store : String) (a : Answers) :
    NatsClient × Except Failure Client :=
  c.onObjectStore store a

/-- `get_file_info`. -/
def getFileInfo (c : NatsClient) (store : String) (a : Answers) :
    NatsClient × Except Failure Client :=
  c.onObjectStore store a

/-- `get_file_list`. -/
def getFileList (c : NatsClient) (store : String) (a : Answers) :
    NatsClient × Except Failure Client :=
  c.onObjectStore store a

/-- One operation: the client after it, and the connection whose handle it calls, if it gets that
far. -/
def perform (c : NatsClient) (a : Answers) : Operation → NatsClient × Except Failure (Option Client)
  | .publish encoded => (c.publish encoded a).map id (Except.map some)
  | .request encoded => (c.request encoded a).map id (Except.map some)
  | .publishStream encoded => (c.publishStream encoded a).map id (Except.map some)
  | .getServerInfo => (c.getServerInfo a).map id (Except.map some)
  | .putValue bucket encoded => (c.putValue bucket encoded a).map id (Except.map some)
  | .getValue bucket => (c.getValue bucket a).map id (Except.map some)
  | .deleteValue bucket => (c.deleteValue bucket a).map id (Except.map some)
  | .getFile store => (c.getFile store a).map id (Except.map some)
  | .putFile store => (c.putFile store a).map id (Except.map some)
  | .deleteFile store => (c.deleteFile store a).map id (Except.map some)
  | .getFileInfo store => (c.getFileInfo store a).map id (Except.map some)
  | .getFileList store => (c.getFileList store a).map id (Except.map some)
  | .invalidateConnection => (c.invalidateConnection, .ok none)
  | .checkAndInvalidateConnection new_config =>
    (c.checkAndInvalidateConnection new_config, .ok none)

/-! ## What the operations can do -/

/-- There is a connection, or one is made with the configuration in use, or the attempt fails and
takes the configuration away. -/
theorem ensureConnection_cases (c : NatsClient) (a : Answers) :
    (∃ client, c.connection = some client ∧ c.ensureConnection a = (c, .ok ())) ∨
      (c.connection = none ∧ a.connected = true ∧
        ∃ client : Client, client.opts = (c.current_config.getD a.fetched).nats_opt ∧
          c.ensureConnection a = ({ c with
            current_config := some (c.current_config.getD a.fetched), opened := c.opened + 1,
            connection := some client, jetstream := some { client } }, .ok ())) ∨
      (c.connection = none ∧ a.connected = false ∧
        c.ensureConnection a = ({ c with current_config := none }, .error .error)) := by
  unfold ensureConnection
  rcases Option.eq_none_or_eq_some c.connection with hnone | ⟨client, hsome⟩
  · rw [if_pos (Option.isNone_iff_eq_none.mpr hnone)]
    unfold initializeConnection
    cases hanswer : a.connected with
    | true => exact Or.inr (Or.inl ⟨hnone, rfl, _, rfl, rfl⟩)
    | false => exact Or.inr (Or.inr ⟨hnone, rfl, rfl⟩)
  · rw [hsome, if_neg (by simp)]
    exact Or.inl ⟨client, rfl, rfl⟩

/-- A bucket comes from the cache, or through the context, if that is there and the bucket is found
or created. -/
theorem onBucket_cases (c : NatsClient) (bucket : String) (a : Answers) :
    (∃ store, c.cached_buckets.lookup bucket = some store ∧
      c.onBucket bucket a = (c, .ok store.jetstream.client)) ∨
    (c.cached_buckets.lookup bucket = none ∧
      ((∃ e, (c.getJetstream a).2 = .error e ∧
        c.onBucket bucket a = ((c.getJetstream a).1, .error e)) ∨
      (∃ jetstream, (c.getJetstream a).2 = .ok jetstream ∧
        c.onBucket bucket a = ({ (c.getJetstream a).1 with
          cached_buckets := (c.getJetstream a).1.cached_buckets.insert bucket
            { bucket, jetstream } }, .ok jetstream.client)) ∨
      c.onBucket bucket a = ((c.getJetstream a).1, .error .error))) := by
  unfold onBucket getOrCreateBucket
  cases c.cached_buckets.lookup bucket with
  | some store => exact Or.inl ⟨store, rfl, rfl⟩
  | none =>
    refine Or.inr ⟨rfl, ?_⟩
    dsimp only
    generalize c.getJetstream a = r
    obtain ⟨c', e | jetstream⟩ := r
    · exact Or.inl ⟨e, rfl, rfl⟩
    · dsimp only
      cases a.found || a.created with
      | true =>
        rw [if_pos rfl, AList.lookup_insert]
        exact Or.inr (Or.inl ⟨jetstream, rfl, rfl⟩)
      | false => exact Or.inr (Or.inr rfl)

/-- An object store comes from the cache, or through the context, if that is there and the store is
found or created. -/
theorem onObjectStore_cases (c : NatsClient) (store : String) (a : Answers) :
    (∃ handle, c.cached_object_stores.lookup store = some handle ∧
      c.onObjectStore store a = (c, .ok handle.jetstream.client)) ∨
    (c.cached_object_stores.lookup store = none ∧
      ((∃ e, (c.getJetstream a).2 = .error e ∧
        c.onObjectStore store a = ((c.getJetstream a).1, .error e)) ∨
      (∃ jetstream, (c.getJetstream a).2 = .ok jetstream ∧
        c.onObjectStore store a = ({ (c.getJetstream a).1 with
          cached_object_stores := (c.getJetstream a).1.cached_object_stores.insert store
            { bucket := store, jetstream } }, .ok jetstream.client)) ∨
      c.onObjectStore store a = ((c.getJetstream a).1, .error .error))) := by
  unfold onObjectStore getOrCreateObjectStore
  cases c.cached_object_stores.lookup store with
  | some handle => exact Or.inl ⟨handle, rfl, rfl⟩
  | none =>
    refine Or.inr ⟨rfl, ?_⟩
    dsimp only
    generalize c.getJetstream a = r
    obtain ⟨c', e | jetstream⟩ := r
    · exact Or.inl ⟨e, rfl, rfl⟩
    · dsimp only
      cases a.found || a.created with
      | true =>
        rw [if_pos rfl, AList.lookup_insert]
        exact Or.inr (Or.inl ⟨jetstream, rfl, rfl⟩)
      | false => exact Or.inr (Or.inr rfl)

end NatsClient

end PgNats
