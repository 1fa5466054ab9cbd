import PgNats.NatsClient.Connections

/-!
# Values and files

The operations of `src/nats_client.rs` that read and write what a NATS server keeps: a value under a
key of a bucket, and a file under its name in an object store. Both go through a handle from a
cache, so `Cell` is either, and each operation is one definition for the two. What a server does
with a call on a handle is the parameter `Remote`, and `Remote.Lawful` is what a caller relies on: a
read finds what is there, and a call changes its own cell only. A `Session` is a client and what is
around it, which others change too (`Event.elsewhere`).

`get_last_write` says that the caches do not show: whatever happens between a write and a read, with
reloads, other servers, and connections that fail, the read finds what was written, if it is made
with the options of the write and nobody else has written there. For files, no reload may find a
cached object store.
-/

namespace PgNats

/-- What is kept: values or files. -/
inductive CellKind where
  /-- A value under a key of a bucket. -/
  | value
  /-- A file under its name in an object store. -/
  | file
  deriving DecidableEq, Repr

/-- A place on a NATS server. -/
structure Cell where
  /-- What is kept there. -/
  kind : CellKind
  /-- The bucket or the object store. -/
  holder : String
  /-- The key or the name of the file. -/
  name : String
  deriving DecidableEq, Repr

namespace NatsClient

open Run (RunAll)

/-- The connection that a cached handle belongs to. -/
def cachedOn (c : NatsClient) : CellKind → String → Option Client
  | .value, bucket => (c.cached_buckets.lookup bucket).map fun store => store.jetstream.client
  | .file, store => (c.cached_object_stores.lookup store).map fun store => store.jetstream.client

/-- The handle that an operation on the cell calls: the connection that it belongs to. -/
def handle (c : NatsClient) (cell : Cell) (a : Answers) : NatsClient × Except Failure Client :=
  match cell.kind with
  | .value => c.onBucket cell.holder a
  | .file => c.onObjectStore cell.holder a

/-- The cached handles of this kind belong to the current connection. -/
def Current (kind : CellKind) (c : NatsClient) : Prop :=
  ∀ holder client, c.cachedOn kind holder = some client → c.connection = some client

/-- A client after an operation that closes no connection: it keeps the connection or opens the
first one, and what it has cached since belongs to that. -/
structure Extends (c c' : NatsClient) : Prop where
  /-- A connection is kept. -/
  kept : c.connection = none ∨ c'.connection = c.connection
  /-- A new handle belongs to the connection. -/
  cached : ∀ kind holder client, c'.cachedOn kind holder = some client →
    c.cachedOn kind holder = some client ∨ c'.connection = some client

section Operations

variable {c c' : NatsClient} {a : Answers} {kind : CellKind}

/-- Handles stay current where no connection is closed. -/
theorem Current.extends (h : Current kind c) (hext : Extends c c') : Current kind c' := by
  intro holder client hcached
  rcases hext.cached kind holder client hcached with hold | hnew
  · have hconn := h holder client hold
    rcases hext.kept with hnone | hkept
    · exact absurd (hconn.symm.trans hnone) (by simp)
    · rw [hkept, hconn]
  · exact hnew

/-- Nothing has changed. -/
theorem Extends.refl (c : NatsClient) : Extends c c :=
  ⟨Or.inr rfl, fun _ _ _ h => Or.inl h⟩

/-- Opening the connection caches nothing. -/
theorem extends_ensureConnection : Extends c (c.ensureConnection a).1 := by
  rcases ensureConnection_cases c a with
    ⟨client, -, hens⟩ | ⟨hnone, -, client, -, hens⟩ | ⟨hnone, -, hens⟩
  · rw [hens]
    exact .refl c
  · rw [hens]
    exact ⟨Or.inl hnone, fun kind holder client h => Or.inl (by cases kind <;> exact h)⟩
  · rw [hens]
    exact ⟨Or.inl hnone, fun kind holder client h => Or.inl (by cases kind <;> exact h)⟩

/-- The context that `get_jetstream` returns is that of the connection. -/
theorem connection_of_getJetstream (h : Linked c) {jetstream : JetStream}
    (hok : (c.getJetstream a).2 = .ok jetstream) :
    (c.getJetstream a).1.connection = some jetstream.client := by
  obtain ⟨hlinked, -, hconn⟩ := linked_ensureConnection (a := a) h
  have hcontext := hlinked.context
  unfold getJetstream at hok ⊢
  generalize c.ensureConnection a = r at hconn hcontext hok
  obtain ⟨c', e | _⟩ := r
  · exact absurd hok (by simp)
  · obtain ⟨client, hclient⟩ := hconn rfl
    dsimp only at hclient hcontext hok ⊢
    rw [hcontext, hclient] at hok
    rw [hclient, ← Except.ok.inj hok]

/-- A bucket that is cached is one of the connection. -/
theorem extends_onBucket (h : Linked c) (bucket : String) : Extends c (c.onBucket bucket a).1 := by
  have hext : Extends c (c.getJetstream a).1 := getJetstream_fst ▸ extends_ensureConnection
  rcases onBucket_cases c bucket a with
    ⟨store, -, hcall⟩ | ⟨-, ⟨e, -, hcall⟩ | ⟨jetstream, hok, hcall⟩ | hcall⟩
  · rw [hcall]
    exact .refl c
  · rw [hcall]
    exact hext
  · rw [hcall]
    refine ⟨hext.kept, fun kind holder client hcached => ?_⟩
    cases kind with
    | value =>
      obtain ⟨store, hstore, rfl⟩ := Option.map_eq_some_iff.mp hcached
      rcases HashMap.lookup_insert_eq_some hstore with ⟨-, rfl⟩ | hold
      · exact Or.inr (connection_of_getJetstream h hok)
      · exact hext.cached .value holder _ (Option.map_eq_some_iff.mpr ⟨store, hold, rfl⟩)
    | file => exact hext.cached .file holder client hcached
  · rw [hcall]
    exact hext

/-- An object store that is cached is one of the connection. -/
theorem extends_onObjectStore (h : Linked c) (store : String) :
    Extends c (c.onObjectStore store a).1 := by
  have hext : Extends c (c.getJetstream a).1 := getJetstream_fst ▸ extends_ensureConnection
  rcases onObjectStore_cases c store a with
    ⟨handle, -, hcall⟩ | ⟨-, ⟨e, -, hcall⟩ | ⟨jetstream, hok, hcall⟩ | hcall⟩
  · rw [hcall]
    exact .refl c
  · rw [hcall]
    exact hext
  · rw [hcall]
    refine ⟨hext.kept, fun kind holder client hcached => ?_⟩
    cases kind with
    | value => exact hext.cached .value holder client hcached
    | file =>
      obtain ⟨handle, hhandle, rfl⟩ := Option.map_eq_some_iff.mp hcached
      rcases HashMap.lookup_insert_eq_some hhandle with ⟨-, rfl⟩ | hold
      · exact Or.inr (connection_of_getJetstream h hok)
      · exact hext.cached .file holder _ (Option.map_eq_some_iff.mpr ⟨handle, hold, rfl⟩)
  · rw [hcall]
    exact hext

/-- Every operation but an invalidation keeps the connection. -/
theorem extends_perform (h : Linked c) {op : Operation} (hop : c.Invalidates op = false) :
    Extends c (c.perform a op).1 :=
  perform_of_handles hop (.refl c) extends_ensureConnection (extends_onBucket h)
    (extends_onObjectStore h)

/-- An invalidation leaves no bucket, and no object store if it finds none. -/
theorem current_of_invalidates {op : Operation} (hop : c.Invalidates op = true)
    (hsafe : kind = .file → c.cached_object_stores = ∅) : Current kind (c.perform a op).1 := by
  have hempty : Current kind c.invalidateConnection := by
    intro holder client hcached
    cases kind with
    | value => exact absurd hcached (by simp [cachedOn, invalidateConnection])
    | file => exact absurd hcached (by simp [cachedOn, invalidateConnection, hsafe rfl])
  -- The configuration that is then set concerns no handle.
  cases op with
  | invalidateConnection => exact hempty
  | checkAndInvalidateConnection new_config =>
    have hchanged : c.changed new_config = true := hop
    show Current kind (c.checkAndInvalidateConnection new_config)
    unfold checkAndInvalidateConnection
    rw [if_pos hchanged]
    intro holder client hcached
    exact hempty holder client (by cases kind <;> exact hcached)
  | _ => exact absurd hop Bool.false_ne_true

/-- Every operation keeps the handles of a kind current, if an invalidation finds no object store
cached where it matters. -/
theorem current_perform (hlinked : Linked c) (h : Current kind c) {op : Operation}
    (hsafe : kind = .file → Safe c (op, a)) : Current kind (c.perform a op).1 := by
  cases hop : c.Invalidates op with
  | false => exact h.extends (extends_perform hlinked hop)
  | true => exact current_of_invalidates hop fun hkind => hsafe hkind hop

/-- A handle comes from the cache or through the context, or there is none. -/
theorem handle_cases (c : NatsClient) (cell : Cell) (a : Answers) :
    (∃ client, c.cachedOn cell.kind cell.holder = some client ∧
      c.handle cell a = (c, .ok client)) ∨
    (∃ jetstream, (c.getJetstream a).2 = .ok jetstream ∧
      (c.handle cell a).1.connection = (c.getJetstream a).1.connection ∧
      (c.handle cell a).2 = .ok jetstream.client) ∨
    ∃ e, (c.handle cell a).2 = .error e := by
  obtain ⟨kind, holder, name⟩ := cell
  unfold handle
  cases kind with
  | value =>
    rcases onBucket_cases c holder a with
      ⟨store, hlook, hcall⟩ | ⟨-, ⟨e, -, hcall⟩ | ⟨jetstream, hok, hcall⟩ | hcall⟩
    · exact Or.inl ⟨_, Option.map_eq_some_iff.mpr ⟨store, hlook, rfl⟩, hcall⟩
    · exact Or.inr (Or.inr ⟨e, by rw [hcall]⟩)
    · exact Or.inr (Or.inl ⟨jetstream, hok, by rw [hcall], by rw [hcall]⟩)
    · exact Or.inr (Or.inr ⟨.error, by rw [hcall]⟩)
  | file =>
    rcases onObjectStore_cases c holder a with
      ⟨store, hlook, hcall⟩ | ⟨-, ⟨e, -, hcall⟩ | ⟨jetstream, hok, hcall⟩ | hcall⟩
    · exact Or.inl ⟨_, Option.map_eq_some_iff.mpr ⟨store, hlook, rfl⟩, hcall⟩
    · exact Or.inr (Or.inr ⟨e, by rw [hcall]⟩)
    · exact Or.inr (Or.inl ⟨jetstream, hok, by rw [hcall], by rw [hcall]⟩)
    · exact Or.inr (Or.inr ⟨.error, by rw [hcall]⟩)

/-- The handle of a cell is one of the connection. -/
theorem connection_of_handle (hlinked : Linked c) {cell : Cell} (h : Current cell.kind c)
    {client : Client} (hok : (c.handle cell a).2 = .ok client) :
    (c.handle cell a).1.connection = some client := by
  rcases handle_cases c cell a with
    ⟨client', hcached, hcall⟩ | ⟨jetstream, hjs, hconn, hcall⟩ | ⟨e, hcall⟩
  · rw [hcall] at hok ⊢
    rw [← Except.ok.inj hok]
    exact h _ _ hcached
  · rw [hcall] at hok
    rw [hconn, ← Except.ok.inj hok]
    exact connection_of_getJetstream hlinked hjs
  · exact absurd (hcall.symm.trans hok) (by simp)

end Operations

end NatsClient

/-- What the NATS servers do with a call on a handle of a connection with these options. -/
structure Remote (W : Type) where
  /-- `Store::put`, with the new revision, and `ObjectStore::put`. -/
  put : W → NatsConnectionOptions → Cell → List UInt8 → W × Except Unit UInt64
  /-- `Store::get`, and `ObjectStore::get` with all that is read from it. -/
  get : W → NatsConnectionOptions → Cell → Except Unit (Option (List UInt8))
  /-- `Store::delete` and `ObjectStore::delete`. -/
  delete : W → NatsConnectionOptions → Cell → W × Except Unit Unit

/-- What a caller relies on, where `held` is what the cells hold. A bucket or an object store that
the client creates has one replica, so a read finds the last write. A write that fails may or may
not have changed its cell, and two options may lead to one server. -/
structure Remote.Lawful {W : Type} (remote : Remote W)
    (held : W → NatsConnectionOptions → Cell → Option (List UInt8)) : Prop where
  /-- A read finds what is there. -/
  get_held : ∀ w opts cell found, remote.get w opts cell = .ok found → found = held w opts cell
  /-- What was written is there. -/
  held_put : ∀ w opts cell data version, (remote.put w opts cell data).2 = .ok version →
    held (remote.put w opts cell data).1 opts cell = some data
  /-- What was deleted is not there. -/
  held_delete : ∀ w opts cell, (remote.delete w opts cell).2 = .ok () →
    held (remote.delete w opts cell).1 opts cell = none
  /-- A write changes no other cell, of whatever server. -/
  put_frame : ∀ w opts opts' cell cell' data, cell ≠ cell' →
    held (remote.put w opts cell data).1 opts' cell' = held w opts' cell'
  /-- A deletion changes no other cell, of whatever server. -/
  delete_frame : ∀ w opts opts' cell cell', cell ≠ cell' →
    held (remote.delete w opts cell).1 opts' cell' = held w opts' cell'

/-- A backend's client, and what is around it. -/
structure Backend (W : Type) where
  /-- The client. -/
  client : NatsClient
  /-- The NATS servers. -/
  world : W

namespace Backend

open Run (RunAll)
open NatsClient (Linked Current Operation Safe)

variable {W : Type} (remote : Remote W)

/-- A write through the handle of the cell, where `data` is what `to_bytes` gives. -/
def put (b : Backend W) (cell : Cell) (data : Option (List UInt8)) (a : Answers) :
    Backend W × Except Failure UInt64 :=
  match b.client.handle cell a with
  | (client, .error e) => ({ b with client }, .error e)
  | (client, .ok connection) =>
    -- The value is encoded when the handle is there.
    match data with
    | none => ({ b with client }, .error .error)
    | some data =>
      let (world, result) := remote.put b.world connection.opts cell data
      ({ client, world }, result.mapError fun _ => .error)

/-- A read through the handle of the cell. -/
def get (b : Backend W) (cell : Cell) (a : Answers) :
    Backend W × Except Failure (Option (List UInt8)) :=
  match b.client.handle cell a with
  | (client, .error e) => ({ b with client }, .error e)
  | (client, .ok connection) =>
    ({ b with client }, (remote.get b.world connection.opts cell).mapError fun _ => .error)

/-- A deletion through the handle of the cell. -/
def delete (b : Backend W) (cell : Cell) (a : Answers) : Backend W × Except Failure Unit :=
  match b.client.handle cell a with
  | (client, .error e) => ({ b with client }, .error e)
  | (client, .ok connection) =>
    let (world, result) := remote.delete b.world connection.opts cell
    ({ client, world }, result.mapError fun _ => .error)

/-- `map(T::from_bytes).transpose()`. -/
def decode {α : Type} (from_bytes : List UInt8 → Option α) :
    Option (List UInt8) → Except Failure (Option α)
  | none => .ok none
  | some data => match from_bytes data with
    | some value => .ok (some value)
    | none => .error .error

/-- `to_bytes` of a text. -/
def textToBytes (text : String) : Option (List UInt8) :=
  some (text.toList.flatMap String.utf8EncodeChar)

/-- `from_bytes` of a text. -/
def textFromBytes (bytes : List UInt8) : Option String := String.fromUTF8? bytes.toByteArray

/-- `to_bytes` of a JSON value, where `to_string` is the text that `serde_json` writes. -/
def jsonToBytes {α : Type} (to_string : α → Option String) (value : α) : Option (List UInt8) :=
  (to_string value).bind textToBytes

/-- `from_bytes` of a JSON value, where `from_str` is what `serde_json` makes of a text. -/
def jsonFromBytes {α : Type} (from_str : String → Option α) (bytes : List UInt8) : Option α :=
  (textFromBytes bytes).bind from_str

/-- `put_value`. -/
def putValue (b : Backend W) (bucket key : String) (data : Option (List UInt8)) (a : Answers) :
    Backend W × Except Failure UInt64 :=
  b.put remote ⟨.value, bucket, key⟩ data a

/-- `get_value`. -/
def getValue {α : Type} (b : Backend W) (from_bytes : List UInt8 → Option α) (bucket key : String)
    (a : Answers) : Backend W × Except Failure (Option α) :=
  (b.get remote ⟨.value, bucket, key⟩ a).map id fun found => found.bind (decode from_bytes)

/-- `delete_value`. -/
def deleteValue (b : Backend W) (bucket key : String) (a : Answers) :
    Backend W × Except Failure Unit :=
  b.delete remote ⟨.value, bucket, key⟩ a

/-- `put_file`. -/
def putFile (b : Backend W) (store name : String) (content : List UInt8) (a : Answers) :
    Backend W × Except Failure Unit :=
  (b.put remote ⟨.file, store, name⟩ (some content) a).map id (Except.map fun _ => ())

/-- `get_file`. `ObjectStore::get` has an error for a file that is not there. -/
def getFile (b : Backend W) (store name : String) (a : Answers) :
    Backend W × Except Failure (List UInt8) :=
  (b.get remote ⟨.file, store, name⟩ a).map id fun found => found.bind fun
    | some content => .ok content
    | none => .error .error

/-- `delete_file`. -/
def deleteFile (b : Backend W) (store name : String) (a : Answers) :
    Backend W × Except Failure Unit :=
  b.delete remote ⟨.file, store, name⟩ a

/-- What can happen to a backend. -/
inductive Event (W : Type) where
  /-- It writes. -/
  | put (cell : Cell) (data : Option (List UInt8)) (a : Answers)
  /-- It reads. -/
  | get (cell : Cell) (a : Answers)
  /-- It deletes. -/
  | delete (cell : Cell) (a : Answers)
  /-- It does anything else with its client. -/
  | perform (op : Operation) (a : Answers)
  /-- Something happens to the servers. -/
  | elsewhere (world : W)

/-- One event, which is always possible. -/
def step (b : Backend W) : Event W → Option (Backend W)
  | .put cell data a => some (b.put remote cell data a).1
  | .get cell a => some (b.get remote cell a).1
  | .delete cell a => some (b.delete remote cell a).1
  | .perform op a => some { b with client := (b.client.perform a op).1 }
  | .elsewhere world => some { b with world }

/-- An invalidation finds no cached object store, where that matters. -/
def Careful (kind : CellKind) (b : Backend W) : Event W → Prop
  | .perform op a => kind = .file → Safe b.client (op, a)
  | _ => True

/-- The event leaves the cell of the server with these options alone. -/
def Spares (held : W → NatsConnectionOptions → Cell → Option (List UInt8))
    (opts : NatsConnectionOptions) (cell : Cell) (b : Backend W) : Event W → Prop
  | .put cell' _ _ => cell' ≠ cell
  | .delete cell' _ => cell' ≠ cell
  | .elsewhere world => held world opts cell = held b.world opts cell
  | _ => True

section Operations

variable {remote} {b b' : Backend W} {cell : Cell} {a : Answers}

/-- What holds of a client, for the cells of a kind: its connection is that of its configuration,
and the handles belong to it. -/
structure Sound (kind : CellKind) (b : Backend W) : Prop where
  /-- The connection is that of the configuration. -/
  linked : Linked b.client
  /-- The handles belong to the connection. -/
  current : Current kind b.client

/-- The options that the client connects with, or is connected with. -/
def opts? (b : Backend W) : Option NatsConnectionOptions :=
  b.client.current_config.map Config.nats_opt

/-- The operation that leaves the client as a call on the cell does. -/
def touch (cell : Cell) : Operation :=
  match cell.kind with
  | .value => .getValue cell.holder
  | .file => .getFile cell.holder

/-- A call on a cell leaves the client as an operation does. -/
theorem handle_fst (c : NatsClient) (cell : Cell) (a : Answers) :
    (c.handle cell a).1 = (c.perform a (touch cell)).1 := by
  unfold NatsClient.handle touch
  cases cell.kind <;> rfl

/-- A call on a cell keeps a client sound. -/
theorem Sound.handle {kind : CellKind} (h : Sound kind b) (cell : Cell) (a : Answers) (world : W) :
    Sound kind ⟨(b.client.handle cell a).1, world⟩ := by
  have hno : ∀ op : Operation, op = touch cell → b.client.Invalidates op = false := by
    rintro op rfl
    unfold touch
    cases cell.kind <;> rfl
  rw [handle_fst]
  refine ⟨NatsClient.linked_step (e := (touch cell, a)) h.linked rfl, ?_⟩
  exact NatsClient.current_perform h.linked h.current fun _ hop =>
    absurd ((hno _ rfl).symm.trans hop) Bool.false_ne_true

/-- The handle of a cell is one of a connection with the options of the client. -/
theorem Sound.opts (h : Sound cell.kind b) {client : NatsClient} {connection : Client}
    (hok : b.client.handle cell a = (client, .ok connection)) (world : W) :
    opts? ⟨client, world⟩ = some connection.opts := by
  have hafter := (h.handle cell a world).linked
  have hconn := NatsClient.connection_of_handle h.linked h.current (congrArg Prod.snd hok)
  rw [hok] at hafter hconn
  exact hafter.opened connection hconn

/-- A result whose error was mapped was a result. -/
theorem eq_ok_of_mapError {ε ε' α : Type} {f : ε → ε'} {result : Except ε α} {x : α}
    (h : result.mapError f = .ok x) : result = .ok x := by
  cases result with
  | error e => cases h
  | ok y => exact congrArg Except.ok (Except.ok.inj h)

/-- A write that succeeds is one on the server of the options in use. -/
theorem put_eq_ok (h : Sound cell.kind b) {data : Option (List UInt8)} {version : UInt64}
    (hput : b.put remote cell data a = (b', .ok version)) :
    ∃ bytes opts, data = some bytes ∧ b'.opts? = some opts ∧
      remote.put b.world opts cell bytes = (b'.world, .ok version) := by
  unfold put at hput
  generalize hhandle : b.client.handle cell a = r at hput
  obtain ⟨client, e | connection⟩ := r
  · cases hput
  · cases data with
    | none => cases hput
    | some bytes =>
      obtain ⟨rfl, hresult⟩ := Prod.mk.inj hput
      refine ⟨bytes, connection.opts, rfl, h.opts hhandle _, ?_⟩
      exact Prod.ext rfl (eq_ok_of_mapError hresult)

/-- A deletion that succeeds is one on the server of the options in use. -/
theorem delete_eq_ok (h : Sound cell.kind b) (hdelete : b.delete remote cell a = (b', .ok ())) :
    ∃ opts, b'.opts? = some opts ∧ remote.delete b.world opts cell = (b'.world, .ok ()) := by
  unfold delete at hdelete
  generalize hhandle : b.client.handle cell a = r at hdelete
  obtain ⟨client, e | connection⟩ := r
  · cases hdelete
  · obtain ⟨rfl, hresult⟩ := Prod.mk.inj hdelete
    exact ⟨connection.opts, h.opts hhandle _, Prod.ext rfl (eq_ok_of_mapError hresult)⟩

/-- A read that succeeds is one on the server of the options in use, and changes nothing there. -/
theorem get_eq_ok (h : Sound cell.kind b) {found : Option (List UInt8)}
    (hget : b.get remote cell a = (b', .ok found)) :
    ∃ opts, b'.opts? = some opts ∧ remote.get b.world opts cell = .ok found := by
  unfold get at hget
  generalize hhandle : b.client.handle cell a = r at hget
  obtain ⟨client, e | connection⟩ := r
  · cases hget
  · obtain ⟨rfl, hresult⟩ := Prod.mk.inj hget
    exact ⟨connection.opts, h.opts hhandle _, eq_ok_of_mapError hresult⟩

/-- A write changes no more than its cell. -/
theorem put_world (remote : Remote W) (b : Backend W) (cell : Cell) (data : Option (List UInt8))
    (a : Answers) :
    (b.put remote cell data a).1.world = b.world ∨ ∃ opts bytes,
      (b.put remote cell data a).1.world = (remote.put b.world opts cell bytes).1 := by
  unfold put
  obtain ⟨client, e | connection⟩ := b.client.handle cell a
  · exact Or.inl rfl
  · cases data with
    | none => exact Or.inl rfl
    | some bytes => exact Or.inr ⟨connection.opts, bytes, rfl⟩

/-- A deletion changes no more than its cell. -/
theorem delete_world (remote : Remote W) (b : Backend W) (cell : Cell) (a : Answers) :
    (b.delete remote cell a).1.world = b.world ∨ ∃ opts,
      (b.delete remote cell a).1.world = (remote.delete b.world opts cell).1 := by
  unfold delete
  obtain ⟨client, e | connection⟩ := b.client.handle cell a
  · exact Or.inl rfl
  · exact Or.inr ⟨connection.opts, rfl⟩

/-- A read changes nothing on the servers. -/
theorem get_world (b : Backend W) (cell : Cell) (a : Answers) :
    (b.get remote cell a).1.world = b.world := by
  unfold get
  obtain ⟨client, e | connection⟩ := b.client.handle cell a <;> rfl

/-- The three calls leave the client as the handle does. -/
theorem call_client (b : Backend W) (cell : Cell) (data : Option (List UInt8)) (a : Answers) :
    (b.put remote cell data a).1.client = (b.client.handle cell a).1 ∧
      (b.get remote cell a).1.client = (b.client.handle cell a).1 ∧
      (b.delete remote cell a).1.client = (b.client.handle cell a).1 := by
  unfold put get delete
  obtain ⟨client, e | connection⟩ := b.client.handle cell a
  · exact ⟨rfl, rfl, rfl⟩
  · cases data <;> exact ⟨rfl, rfl, rfl⟩

/-- Every event keeps a backend sound, if no reload leaves an object store behind. -/
theorem sound_step {kind : CellKind} {e : Event W} (h : Sound kind b)
    (hcareful : Careful kind b e) (hstep : step remote b e = some b') : Sound kind b' := by
  cases e with
  | put cell data a =>
    obtain rfl := Option.some.inj hstep
    have hafter := h.handle cell a (b.put remote cell data a).1.world
    rwa [← (call_client b cell data a).1] at hafter
  | get cell a =>
    obtain rfl := Option.some.inj hstep
    have hafter := h.handle cell a (b.get remote cell a).1.world
    rwa [← (call_client b cell none a).2.1] at hafter
  | delete cell a =>
    obtain rfl := Option.some.inj hstep
    have hafter := h.handle cell a (b.delete remote cell a).1.world
    rwa [← (call_client b cell none a).2.2] at hafter
  | perform op a =>
    obtain rfl := Option.some.inj hstep
    exact ⟨NatsClient.linked_step (e := (op, a)) h.linked rfl,
      NatsClient.current_perform h.linked h.current hcareful⟩
  | elsewhere world =>
    obtain rfl := Option.some.inj hstep
    exact ⟨h.linked, h.current⟩

/-- An event that spares a cell leaves it alone. -/
theorem held_step {held : W → NatsConnectionOptions → Cell → Option (List UInt8)}
    (hlawful : remote.Lawful held) {opts : NatsConnectionOptions} {e : Event W}
    (hspares : Spares held opts cell b e) (hstep : step remote b e = some b') :
    held b'.world opts cell = held b.world opts cell := by
  cases e with
  | put cell' data a =>
    obtain rfl := Option.some.inj hstep
    rcases put_world remote b cell' data a with hsame | ⟨opts', bytes, hput⟩
    · rw [hsame]
    · rw [hput]
      exact hlawful.put_frame b.world opts' opts cell' cell bytes hspares
  | get cell' a =>
    obtain rfl := Option.some.inj hstep
    rw [get_world]
  | delete cell' a =>
    obtain rfl := Option.some.inj hstep
    rcases delete_world remote b cell' a with hsame | ⟨opts', hdelete⟩
    · rw [hsame]
    · rw [hdelete]
      exact hlawful.delete_frame b.world opts' opts cell' cell hspares
  -- The client's other operations are no calls on a cell.
  | perform op a =>
    obtain rfl := Option.some.inj hstep
    rfl
  | elsewhere world =>
    obtain rfl := Option.some.inj hstep
    exact hspares

end Operations

/-! ## Reading what was written -/

/-- The backend has written the cell, so that it holds these bytes, or has deleted it. -/
def Wrote (cell : Cell) (b : Backend W) (bytes : Option (List UInt8)) (b' : Backend W) : Prop :=
  (∃ data version a, b.put remote cell (some data) a = (b', .ok version) ∧ bytes = some data) ∨
    ∃ a, b.delete remote cell a = (b', .ok ()) ∧ bytes = none

section Runs

variable {remote} {b b' b₁ b₂ b₃ : Backend W} {cell : Cell} {bytes : Option (List UInt8)}
  {held : W → NatsConnectionOptions → Cell → Option (List UInt8)} {opts : NatsConnectionOptions}

/-- A new client is sound. -/
theorem sound_new (kind : CellKind) (config : Option Config) (world : W) :
    Sound kind ⟨.new config, world⟩ := by
  refine ⟨⟨rfl, fun client hclient => absurd hclient (by simp [NatsClient.new])⟩, ?_⟩
  intro holder client hcached
  cases kind <;> exact absurd hcached (by simp [NatsClient.cachedOn, NatsClient.new])

/-- A run without a careless reload ends in a sound state. -/
theorem sound_of_run {kind : CellKind} (h : Sound kind b) {es : List (Event W)}
    (hcareful : RunAll (step remote) (Careful kind) b es)
    (hrun : Run.run (step remote) b es = some b') : Sound kind b' :=
  Run.run_invariant (fun _ _ _ => sound_step) h hcareful hrun

/-- A write leaves its bytes in the cell of the server of the options in use. -/
theorem held_of_wrote (hlawful : remote.Lawful held) (h : Sound cell.kind b)
    (hwrote : Wrote remote cell b bytes b₁) (hopts : b₁.opts? = some opts) :
    held b₁.world opts cell = bytes := by
  rcases hwrote with ⟨data, version, a, hput, rfl⟩ | ⟨a, hdelete, rfl⟩
  · obtain ⟨data', opts', hdata, hopts', hcall⟩ := put_eq_ok h hput
    obtain rfl := Option.some.inj (hopts'.symm.trans hopts)
    obtain rfl := Option.some.inj hdata
    have hheld := hlawful.held_put b.world opts' cell data version (congrArg Prod.snd hcall)
    rwa [hcall] at hheld
  · obtain ⟨opts', hopts', hcall⟩ := delete_eq_ok h hdelete
    obtain rfl := Option.some.inj (hopts'.symm.trans hopts)
    have hheld := hlawful.held_delete b.world opts' cell (congrArg Prod.snd hcall)
    rwa [hcall] at hheld

/-- A write keeps a backend sound. -/
theorem Sound.wrote {kind : CellKind} (h : Sound kind b)
    (hwrote : Wrote remote cell b bytes b₁) : Sound kind b₁ := by
  rcases hwrote with ⟨data, version, a, hput, -⟩ | ⟨a, hdelete, -⟩
  · have hstep : step remote b (.put cell (some data) a) = some b₁ := by rw [step, hput]
    have hcareful : Careful kind b (.put cell (some data) a) := trivial
    exact sound_step h hcareful hstep
  · have hstep : step remote b (.delete cell a) = some b₁ := by rw [step, hdelete]
    have hcareful : Careful kind b (.delete cell a) := trivial
    exact sound_step h hcareful hstep

/-- A read finds what was written last, if nobody has written there in between and it is made with
the options of the write. -/
theorem get_last_write (hlawful : remote.Lawful held) (h : Sound cell.kind b)
    (hwrote : Wrote remote cell b bytes b₁) (hopts : b₁.opts? = some opts) {es : List (Event W)}
    (hspares : RunAll (step remote) (Spares held opts cell) b₁ es)
    (hcareful : RunAll (step remote) (Careful cell.kind) b₁ es)
    (hrun : Run.run (step remote) b₁ es = some b₂) {a : Answers} {found : Option (List UInt8)}
    (hget : b₂.get remote cell a = (b₃, .ok found)) (hopts' : b₃.opts? = some opts) :
    found = bytes := by
  have hkeep : ∀ s e s', held s.world opts cell = bytes → Spares held opts cell s e →
      step remote s e = some s' → held s'.world opts cell = bytes :=
    fun s e s' hs hok hstep => (held_step hlawful hok hstep).trans hs
  have hheld := Run.run_invariant hkeep (held_of_wrote hlawful h hwrote hopts) hspares hrun
  -- The handle of the read, cached or not, belongs to a connection with the same options.
  obtain ⟨opts', hopts'', hcall⟩ := get_eq_ok (sound_of_run (h.wrote hwrote) hcareful hrun) hget
  obtain rfl := Option.some.inj (hopts''.symm.trans hopts')
  exact (hlawful.get_held _ _ _ _ hcall).trans hheld

/-- A text is read back from its bytes. -/
theorem textFromBytes_encode (text : String) :
    textFromBytes (text.toList.flatMap String.utf8EncodeChar) = some text := by
  have hbytes : (text.toList.flatMap String.utf8EncodeChar).toByteArray = text.toByteArray :=
    String.utf8Encode_toList
  unfold textFromBytes String.fromUTF8?
  rw [hbytes, dif_pos text.isValidUTF8]
  rfl

/-- A JSON value is decoded from its bytes as `serde_json` reads its text. -/
theorem decode_json {α : Type} {to_string : α → Option String} {from_str : String → Option α}
    {value value' : α} {text : String} (hwrite : to_string value = some text)
    (hread : from_str text = some value') :
    decode (jsonFromBytes from_str) (jsonToBytes to_string value) = .ok (some value') := by
  unfold jsonToBytes textToBytes decode jsonFromBytes
  rw [hwrite, Option.bind_some]
  dsimp only
  rw [textFromBytes_encode, Option.bind_some, hread]

/-- A text is decoded from its bytes. -/
theorem decode_text (text : String) :
    decode textFromBytes (textToBytes text) = .ok (some text) := by
  have hjson : decode (jsonFromBytes some) (jsonToBytes some text) = .ok (some text) :=
    decode_json rfl rfl
  have htext : jsonFromBytes some = textFromBytes := funext fun _ => Option.bind_fun_some _
  rwa [htext] at hjson

/-- No reload is careless about values. -/
theorem careful_value {b : Backend W} {e : Event W} : Careful .value b e := by
  cases e with
  | perform op a => exact fun h => absurd h (by simp)
  | _ => trivial

/-- In every run of a backend, whatever it does between a `put_value` or a `delete_value` and a
`get_value` of the same key, with reloads, other servers, and connections and calls that fail: if
the read succeeds with the options of the write, it gives what `from_bytes` makes of what was
written, unless somebody has written there in between. -/
theorem getValue_last_write (hlawful : remote.Lawful held) {config : Option Config} {world : W}
    {es es' : List (Event W)} (hrun : Run.run (step remote) ⟨.new config, world⟩ es = some b)
    {bucket key : String}
    (hwrote : (∃ data version a, b.putValue remote bucket key (some data) a = (b₁, .ok version) ∧
        bytes = some data) ∨
      ∃ a, b.deleteValue remote bucket key a = (b₁, .ok ()) ∧ bytes = none)
    (hopts : b₁.opts? = some opts)
    (hspares : RunAll (step remote) (Spares held opts ⟨.value, bucket, key⟩) b₁ es')
    (hrun' : Run.run (step remote) b₁ es' = some b₂) {α : Type} {from_bytes : List UInt8 → Option α}
    {a : Answers} {found : Option α}
    (hget : b₂.getValue remote from_bytes bucket key a = (b₃, .ok found))
    (hopts' : b₃.opts? = some opts) : decode from_bytes bytes = .ok found := by
  have hcareful : ∀ (b : Backend W) (es : List (Event W)),
      RunAll (step remote) (Careful .value) b es := fun b es =>
    Run.runAll_iff_holds_at.mpr fun _ _ _ _ _ => careful_value
  have hsound : Sound .value b := sound_of_run (sound_new .value config world) (hcareful _ _) hrun
  unfold getValue at hget
  generalize hread : b₂.get remote ⟨.value, bucket, key⟩ a = read at hget
  obtain ⟨b₃', e | found'⟩ := read
  · cases hget
  · obtain ⟨rfl, hdecode⟩ := Prod.mk.inj hget
    have hfound := get_last_write hlawful hsound hwrote hopts hspares (hcareful _ _) hrun' hread
      hopts'
    obtain rfl := hfound
    exact hdecode

/-- Servers that keep everything, each under its options. -/
def keepsAll : Remote (NatsConnectionOptions → Cell → Option (List UInt8)) where
  put w opts cell data := (fun o c => if o = opts ∧ c = cell then some data else w o c, .ok 1)
  get w opts cell := .ok (w opts cell)
  delete w opts cell := (fun o c => if o = opts ∧ c = cell then none else w o c, .ok ())

/-- Such servers keep what is written. -/
theorem keepsAll_lawful : keepsAll.Lawful fun w => w where
  get_held _ _ _ _ h := (Except.ok.inj h).symm
  held_put _ _ _ _ _ _ := if_pos ⟨rfl, rfl⟩
  held_delete _ _ _ _ := if_pos ⟨rfl, rfl⟩
  put_frame _ _ _ _ _ _ hne := if_neg fun h => hne h.2.symm
  delete_frame _ _ _ _ _ hne := if_neg fun h => hne h.2.symm

/-- A new client, with empty servers. -/
def newBackend : Backend (NatsConnectionOptions → Cell → Option (List UInt8)) :=
  ⟨.new none, fun _ _ => none⟩

/-- The server answers, and a bucket or an object store that is not there is created. -/
def created : Answers := ⟨validatorConfig [], true, false, true⟩

/-- Two reloads, to another server and back, with another key written there. -/
def roundTrip : List (Event (NatsConnectionOptions → Cell → Option (List UInt8))) := [
  .perform (.checkAndInvalidateConnection (validatorConfig ["port=4223"])) created,
  .put ⟨.value, "b", "other"⟩ (some [1]) created,
  .perform (.checkAndInvalidateConnection (validatorConfig [])) created]

/-- A text is read after the two reloads. -/
theorem getValue_last_write_text : ∃ b₁ b₂ b₃ found,
    newBackend.putValue keepsAll "b" "k" (textToBytes "é") created = (b₁, .ok 1) ∧
      Run.run (step keepsAll) b₁ roundTrip = some b₂ ∧
      b₂.getValue keepsAll textFromBytes "b" "k" created = (b₃, .ok found) ∧
      found = some "é" := by
  obtain ⟨b₁, b₂, b₃, found, hput, hrun, hget, hopts, hopts'⟩ : ∃ b₁ b₂ b₃ found,
      newBackend.putValue keepsAll "b" "k" (textToBytes "é") created = (b₁, .ok 1) ∧
      Run.run (step keepsAll) b₁ roundTrip = some b₂ ∧
      b₂.getValue keepsAll textFromBytes "b" "k" created = (b₃, .ok found) ∧
      b₁.opts? = some (validatorConfig []).nats_opt ∧
      b₃.opts? = some (validatorConfig []).nats_opt :=
    ⟨_, _, _, _, rfl, rfl, rfl, rfl, rfl⟩
  have hspares : RunAll (step keepsAll)
      (Spares (fun w => w) (validatorConfig []).nats_opt ⟨.value, "b", "k"⟩) b₁ roundTrip :=
    ⟨trivial, (by decide : (⟨.value, "b", "other"⟩ : Cell) ≠ ⟨.value, "b", "k"⟩), trivial, trivial⟩
  have hstart : Run.run (step keepsAll) newBackend [] = some newBackend := rfl
  have hdecode := getValue_last_write keepsAll_lawful hstart
    (Or.inl ⟨_, 1, created, hput, rfl⟩) hopts hspares hrun hget hopts'
  exact ⟨b₁, b₂, b₃, found, hput, hrun, hget,
    (Except.ok.inj ((decode_text "é").symm.trans hdecode)).symm⟩

/-- The same for files, if no reload that closes the connection finds a cached object store: a
`get_file` after a `put_file` gives its content, and none succeeds after a `delete_file`. -/
theorem getFile_last_write (hlawful : remote.Lawful held) {config : Option Config} {world : W}
    {es es' : List (Event W)} (hrun : Run.run (step remote) ⟨.new config, world⟩ es = some b)
    (hcareful : RunAll (step remote) (Careful .file) ⟨.new config, world⟩ es)
    {store name : String}
    (hwrote : (∃ content a, b.putFile remote store name content a = (b₁, .ok ()) ∧
        bytes = some content) ∨
      ∃ a, b.deleteFile remote store name a = (b₁, .ok ()) ∧ bytes = none)
    (hopts : b₁.opts? = some opts)
    (hspares : RunAll (step remote) (Spares held opts ⟨.file, store, name⟩) b₁ es')
    (hcareful' : RunAll (step remote) (Careful .file) b₁ es')
    (hrun' : Run.run (step remote) b₁ es' = some b₂) {a : Answers} {content : List UInt8}
    (hget : b₂.getFile remote store name a = (b₃, .ok content))
    (hopts' : b₃.opts? = some opts) : bytes = some content := by
  have hsound : Sound .file b := sound_of_run (sound_new .file config world) hcareful hrun
  have hwrote' : Wrote remote ⟨.file, store, name⟩ b bytes b₁ := by
    rcases hwrote with ⟨content, a, hput, hbytes⟩ | hdelete
    · unfold putFile at hput
      generalize hcall : b.put remote ⟨.file, store, name⟩ (some content) a = call at hput
      obtain ⟨b₁', e | version⟩ := call
      · cases hput
      · obtain ⟨rfl, -⟩ := Prod.mk.inj hput
        exact Or.inl ⟨content, version, a, hcall, hbytes⟩
    · exact Or.inr hdelete
  unfold getFile at hget
  generalize hread : b₂.get remote ⟨.file, store, name⟩ a = read at hget
  obtain ⟨b₃', e | found⟩ := read
  · cases hget
  · obtain ⟨rfl, hcontent⟩ := Prod.mk.inj hget
    obtain rfl := get_last_write hlawful hsound hwrote' hopts hspares hcareful' hrun' hread hopts'
    cases found with
    | none => cases hcontent
    | some content' => exact congrArg some (Except.ok.inj hcontent)

/-- A connection, and two reloads that close it before there is an object store. -/
def reloadedEarly : List (Event (NatsConnectionOptions → Cell → Option (List UInt8))) := [
  .perform .getServerInfo created,
  .perform (.checkAndInvalidateConnection (validatorConfig ["port=4223"])) created,
  .perform .getServerInfo created,
  .perform (.checkAndInvalidateConnection (validatorConfig [])) created]

/-- A reload that changes nothing, and the end of another file. -/
def reloadedLate : List (Event (NatsConnectionOptions → Cell → Option (List UInt8))) := [
  .perform (.checkAndInvalidateConnection (validatorConfig [])) created,
  .delete ⟨.file, "s", "g"⟩ created]

/-- A file is put between the reloads, and read after them. -/
theorem getFile_last_write_content : ∃ b b₁ b₂ b₃ content,
    Run.run (step keepsAll) newBackend reloadedEarly = some b ∧
      b.putFile keepsAll "s" "f" [1, 2] created = (b₁, .ok ()) ∧
      Run.run (step keepsAll) b₁ reloadedLate = some b₂ ∧
      b₂.getFile keepsAll "s" "f" created = (b₃, .ok content) ∧
      some [1, 2] = some content := by
  obtain ⟨b, b₁, b₂, b₃, content, hstart, hput, hrun, hget, hopts, hopts', hcareful'⟩ :
      ∃ b b₁ b₂ b₃ content, Run.run (step keepsAll) newBackend reloadedEarly = some b ∧
        b.putFile keepsAll "s" "f" [1, 2] created = (b₁, .ok ()) ∧
        Run.run (step keepsAll) b₁ reloadedLate = some b₂ ∧
        b₂.getFile keepsAll "s" "f" created = (b₃, .ok content) ∧
        b₁.opts? = some (validatorConfig []).nats_opt ∧
        b₃.opts? = some (validatorConfig []).nats_opt ∧
        RunAll (step keepsAll) (Careful .file) b₁ reloadedLate :=
    ⟨_, _, _, _, _, rfl, rfl, rfl, rfl, rfl, rfl, fun _ => by decide +kernel, trivial, trivial⟩
  have hcareful : RunAll (step keepsAll) (Careful .file) newBackend reloadedEarly :=
    ⟨fun _ => by decide, fun _ _ => rfl, fun _ => by decide, fun _ _ => rfl, trivial⟩
  have hspares : RunAll (step keepsAll)
      (Spares (fun w => w) (validatorConfig []).nats_opt ⟨.file, "s", "f"⟩) b₁ reloadedLate :=
    ⟨trivial, (by decide : (⟨.file, "s", "g"⟩ : Cell) ≠ ⟨.file, "s", "f"⟩), trivial⟩
  exact ⟨b, b₁, b₂, b₃, content, hstart, hput, hrun, hget, getFile_last_write keepsAll_lawful hstart
    hcareful (Or.inl ⟨_, created, hput, rfl⟩) hopts hspares hcareful' hrun hget hopts'⟩

end Runs

end Backend

end PgNats
