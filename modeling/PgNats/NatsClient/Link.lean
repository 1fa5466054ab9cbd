import PgNats.NatsClient.Handles

/-!
# The connection, its context, and its configuration

Three optional fields of the client belong together: the connection, the JetStream context on it,
and the configuration that it was opened with. `initialize_connection` sets them, an attempt that
fails takes the configuration away, and an invalidation takes all three. `Linked` is the invariant,
and `get_jetstream`, which tests the connection and unwraps the context, relies on it.

Each operation opens a connection at most once, at its beginning, and only when it needs one; `Kept`
says so for each of them. `linked_of_run` is the result for whole runs: the fields belong together,
no `expect` fails, and after a reload the connections are those of its options.
-/

namespace PgNats.NatsClient

open Run (RunAll)

/-- The fields that belong together. -/
def link (c : NatsClient) : Option Client × Option JetStream × Option Config :=
  (c.connection, c.jetstream, c.current_config)

/-- The context is that of the connection, and a connection was opened with the options of the
configuration. -/
structure Linked (c : NatsClient) : Prop where
  /-- There is a context exactly when there is a connection, and on this connection. -/
  context : c.jetstream = c.connection.map JetStream.mk
  /-- A connection comes with its configuration. -/
  opened : ∀ client, c.connection = some client →
    c.current_config.map Config.nats_opt = some client.opts

/-- What an operation that may need a connection does to the three fields, and that no `expect` of
it fails. -/
structure Kept {α : Type} (c : NatsClient) (a : Answers) (needs : Bool)
    (r : NatsClient × Except Failure α) : Prop where
  /-- The fields are those after the connection is opened, or as they were. -/
  link : r.1.link = if needs then (c.ensureConnection a).1.link else c.link
  /-- No `expect` fails. -/
  no_panic : r.2 ≠ .error .panic

/-- The connection and the configuration are those of the options. -/
structure Pinned (opts : NatsConnectionOptions) (c : NatsClient) : Prop where
  /-- The next connection is opened with the options. -/
  config : c.current_config.map Config.nats_opt = some opts
  /-- The connection was opened with the options. -/
  connection : ∀ client, c.connection = some client → client.opts = opts

section Operations

variable {c : NatsClient} {a : Answers}

/-- Two clients with the same fields are linked together. -/
theorem Linked.of_link {c' : NatsClient} (h : Linked c) (hlink : c'.link = c.link) : Linked c' := by
  obtain ⟨hconn, hrest⟩ := Prod.mk.inj hlink
  obtain ⟨hjs, hconfig⟩ := Prod.mk.inj hrest
  exact ⟨by rw [hjs, hconn]; exact h.context, fun client hclient => by
    rw [hconfig]
    exact h.opened client (hconn.symm.trans hclient)⟩

/-- Opening the connection links the fields, or fails with an error. -/
theorem linked_ensureConnection (h : Linked c) :
    Linked (c.ensureConnection a).1 ∧ (c.ensureConnection a).2 ≠ .error .panic ∧
      ((c.ensureConnection a).2 = .ok () →
        ∃ client, (c.ensureConnection a).1.connection = some client) := by
  rcases ensureConnection_cases c a with
    ⟨client, hconn, hens⟩ | ⟨-, -, client, hopts, hens⟩ | ⟨hconn, -, hens⟩
  · rw [hens]
    exact ⟨h, by simp, fun _ => ⟨client, hconn⟩⟩
  · rw [hens]
    exact ⟨⟨rfl, fun client' hclient => by rw [← Option.some.inj hclient, hopts]; rfl⟩, by simp,
      fun _ => ⟨client, rfl⟩⟩
  -- A failure drops the configuration, which only a connection would need.
  · rw [hens]
    refine ⟨⟨h.context, fun client hclient => ?_⟩, by simp, fun hok => absurd hok (by simp)⟩
    exact absurd (hconn.symm.trans hclient) (by simp)

/-- An error that is not a failed `expect` is passed on as one that is not. -/
theorem error_ne_panic {α β : Type} {e : Failure}
    (h : (.error e : Except Failure α) ≠ .error .panic) :
    (.error e : Except Failure β) ≠ .error .panic :=
  fun heq => h (congrArg Except.error (Except.error.inj heq))

/-- A result without a new connection. -/
theorem kept_self {α : Type} {result : Except Failure α} (hresult : result ≠ .error .panic) :
    Kept c a false (c, result) :=
  ⟨rfl, hresult⟩

/-- `get_connection` opens the connection. -/
theorem kept_getConnection (h : Linked c) : Kept c a true (c.getConnection a) := by
  obtain ⟨-, hpanic, hconn⟩ := linked_ensureConnection (a := a) h
  unfold getConnection
  refine ⟨?_, ?_⟩
  · rw [if_pos rfl]
    generalize c.ensureConnection a = r
    obtain ⟨c', _ | _⟩ := r <;> rfl
  · generalize c.ensureConnection a = r at hpanic hconn
    obtain ⟨c', e | _⟩ := r
    · exact error_ne_panic hpanic
    · obtain ⟨client, hclient⟩ := hconn rfl
      dsimp only at hclient ⊢
      rw [hclient]
      exact fun heq => absurd heq (by simp [expect])

/-- `get_jetstream` opens the connection, and its `expect` finds the context. -/
theorem kept_getJetstream (h : Linked c) : Kept c a true (c.getJetstream a) := by
  obtain ⟨hlinked, hpanic, hconn⟩ := linked_ensureConnection (a := a) h
  unfold getJetstream
  refine ⟨?_, ?_⟩
  · rw [if_pos rfl]
    generalize c.ensureConnection a = r
    obtain ⟨c', _ | _⟩ := r <;> rfl
  · have hcontext := hlinked.context
    generalize c.ensureConnection a = r at hpanic hconn hcontext
    obtain ⟨c', e | _⟩ := r
    · exact error_ne_panic hpanic
    -- The connection was tested, and the context that is unwrapped is there with it.
    · obtain ⟨client, hclient⟩ := hconn rfl
      dsimp only at hclient hcontext ⊢
      rw [hcontext, hclient]
      exact fun heq => absurd heq (by simp [expect])

/-- An operation on a bucket opens the connection when the bucket is not cached. -/
theorem kept_onBucket (h : Linked c) (bucket : String) :
    Kept c a (c.cached_buckets.lookup bucket).isNone (c.onBucket bucket a) := by
  obtain ⟨hlink, hpanic⟩ := kept_getJetstream (a := a) h
  rcases onBucket_cases c bucket a with
    ⟨store, hlook, hcall⟩ | ⟨hlook, ⟨e, herror, hcall⟩ | ⟨jetstream, -, hcall⟩ | hcall⟩
  · rw [hlook, hcall]
    exact kept_self (by simp)
  · rw [hlook, hcall]
    rw [herror] at hpanic
    exact ⟨hlink, error_ne_panic hpanic⟩
  · rw [hlook, hcall]
    exact ⟨hlink, by simp⟩
  · rw [hlook, hcall]
    exact ⟨hlink, by simp⟩

/-- An operation on an object store opens the connection when the store is not cached. -/
theorem kept_onObjectStore (h : Linked c) (store : String) :
    Kept c a (c.cached_object_stores.lookup store).isNone (c.onObjectStore store a) := by
  obtain ⟨hlink, hpanic⟩ := kept_getJetstream (a := a) h
  rcases onObjectStore_cases c store a with
    ⟨handle, hlook, hcall⟩ | ⟨hlook, ⟨e, herror, hcall⟩ | ⟨jetstream, -, hcall⟩ | hcall⟩
  · rw [hlook, hcall]
    exact kept_self (by simp)
  · rw [hlook, hcall]
    rw [herror] at hpanic
    exact ⟨hlink, error_ne_panic hpanic⟩
  · rw [hlook, hcall]
    exact ⟨hlink, by simp⟩
  · rw [hlook, hcall]
    exact ⟨hlink, by simp⟩

/-- A message that is not encoded is refused before the connection is needed. -/
theorem kept_publish (h : Linked c) (encoded : Bool) :
    Kept c a encoded (c.publish encoded a) := by
  cases encoded with
  | true => exact kept_getConnection h
  | false => exact kept_self (by simp)

/-- `publish_stream` opens the connection for an encoded message. -/
theorem kept_publishStream (h : Linked c) (encoded : Bool) :
    Kept c a encoded (c.publishStream encoded a) := by
  unfold publishStream
  cases encoded with
  | false => exact kept_self (by simp)
  | true =>
    obtain ⟨hlink, hpanic⟩ := kept_getJetstream (a := a) h
    rw [if_pos rfl]
    generalize c.getJetstream a = r at hlink hpanic
    obtain ⟨c', e | jetstream⟩ := r
    · exact ⟨hlink, error_ne_panic hpanic⟩
    · exact ⟨hlink, by simp⟩

/-- `put_value` opens the connection when the bucket is not cached. -/
theorem kept_putValue (h : Linked c) (bucket : String) (encoded : Bool) :
    Kept c a (c.cached_buckets.lookup bucket).isNone (c.putValue bucket encoded a) := by
  obtain ⟨hlink, hpanic⟩ := kept_onBucket (a := a) h bucket
  unfold putValue
  generalize c.onBucket bucket a = r at hlink hpanic
  obtain ⟨c', e | client⟩ := r
  · exact ⟨hlink, error_ne_panic hpanic⟩
  · refine ⟨hlink, ?_⟩
    cases encoded <;> simp

end Operations

/-! ## The operations -/

/-- Whether an operation needs the connection: a message that is encoded, or a handle that is not
cached. -/
def needs (c : NatsClient) : Operation → Bool
  | .publish encoded => encoded
  | .request encoded => encoded
  | .publishStream encoded => encoded
  | .getServerInfo => true
  | .putValue bucket _ => (c.cached_buckets.lookup bucket).isNone
  | .getValue bucket => (c.cached_buckets.lookup bucket).isNone
  | .deleteValue bucket => (c.cached_buckets.lookup bucket).isNone
  | .getFile store => (c.cached_object_stores.lookup store).isNone
  | .putFile store => (c.cached_object_stores.lookup store).isNone
  | .deleteFile store => (c.cached_object_stores.lookup store).isNone
  | .getFileInfo store => (c.cached_object_stores.lookup store).isNone
  | .getFileList store => (c.cached_object_stores.lookup store).isNone
  | .invalidateConnection => false
  | .checkAndInvalidateConnection _ => false

/-- A reload or a forced reload. -/
def Operation.isReload : Operation → Bool
  | .invalidateConnection => true
  | .checkAndInvalidateConnection _ => true
  | _ => false

/-- An operation tries to connect and fails. -/
def ConnectFails (c : NatsClient) (e : Operation × Answers) : Prop :=
  c.connection = none ∧ c.needs e.1 = true ∧ e.2.connected = false

instance (c : NatsClient) (e : Operation × Answers) : Decidable (ConnectFails c e) :=
  inferInstanceAs (Decidable (_ ∧ _))

section Operations

variable {c : NatsClient}

/-- The result of an operation that calls NATS. -/
theorem Kept.map {a : Answers} {needs : Bool} {r : NatsClient × Except Failure Client}
    (h : Kept c a needs r) : Kept c a needs (r.map id (Except.map some)) := by
  obtain ⟨c', e | client⟩ := r
  · exact ⟨h.link, error_ne_panic h.no_panic⟩
  · exact ⟨h.link, by simp [Except.map]⟩

/-- Every operation but a reload opens the connection when it needs it, and changes nothing else
about the three fields. -/
theorem kept_perform (h : Linked c) (a : Answers) {op : Operation} (hop : op.isReload = false) :
    Kept c a (c.needs op) (c.perform a op) := by
  cases op with
  | publish encoded => exact (kept_publish h encoded).map
  | request encoded => exact (kept_publish h encoded).map
  | publishStream encoded => exact (kept_publishStream h encoded).map
  | getServerInfo => exact (kept_getConnection h).map
  | putValue bucket encoded => exact (kept_putValue h bucket encoded).map
  | getValue bucket => exact (kept_onBucket h bucket).map
  | deleteValue bucket => exact (kept_onBucket h bucket).map
  | getFile store => exact (kept_onObjectStore h store).map
  | putFile store => exact (kept_onObjectStore h store).map
  | deleteFile store => exact (kept_onObjectStore h store).map
  | getFileInfo store => exact (kept_onObjectStore h store).map
  | getFileList store => exact (kept_onObjectStore h store).map
  | invalidateConnection => exact absurd hop (by simp [Operation.isReload])
  | checkAndInvalidateConnection new_config => exact absurd hop (by simp [Operation.isReload])

/-- A reload closes the connection with its context, or leaves the client as it is. -/
theorem linked_checkAndInvalidateConnection (h : Linked c) (new_config : Config) :
    Linked (c.checkAndInvalidateConnection new_config) := by
  unfold checkAndInvalidateConnection
  split_ifs
  · exact ⟨rfl, fun client hclient => absurd hclient (by simp [invalidateConnection])⟩
  · exact h

/-- The two reloads. -/
theorem Operation.eq_of_isReload {op : Operation} (h : op.isReload = true) :
    op = .invalidateConnection ∨ ∃ new_config, op = .checkAndInvalidateConnection new_config := by
  cases op with
  | invalidateConnection => exact Or.inl rfl
  | checkAndInvalidateConnection new_config => exact Or.inr ⟨new_config, rfl⟩
  | _ => exact absurd h Bool.false_ne_true

/-- No operation ends in a failed `expect`. -/
theorem perform_no_panic (h : Linked c) (a : Answers) (op : Operation) :
    (c.perform a op).2 ≠ .error .panic := by
  cases hop : op.isReload with
  | false => exact (kept_perform h a hop).no_panic
  | true =>
    rcases Operation.eq_of_isReload hop with rfl | ⟨new_config, rfl⟩ <;> simp [perform]

/-- Every operation keeps the fields together. -/
theorem linked_step {c' : NatsClient} {e : Operation × Answers} (h : Linked c)
    (hstep : step c e = some c') : Linked c' := by
  obtain rfl : (c.perform e.2 e.1).1 = c' := Option.some.inj hstep
  cases hop : e.1.isReload with
  | false =>
    have hlink := (kept_perform h e.2 hop).link
    split_ifs at hlink
    · exact (linked_ensureConnection h).1.of_link hlink
    · exact h.of_link hlink
  | true =>
    rcases e with ⟨op, a⟩
    rcases Operation.eq_of_isReload hop with rfl | ⟨new_config, rfl⟩
    · exact ⟨rfl, fun client hclient => absurd hclient (by simp [perform, invalidateConnection])⟩
    · exact linked_checkAndInvalidateConnection h new_config

/-! ## After a reload -/

/-- A reload pins the options. -/
theorem pinned_checkAndInvalidateConnection (h : Linked c) (new_config : Config) :
    Pinned new_config.nats_opt (c.checkAndInvalidateConnection new_config) := by
  unfold checkAndInvalidateConnection
  split_ifs with hchanged
  · exact ⟨rfl, fun client hclient => absurd hclient (by simp [invalidateConnection])⟩
  -- Nothing is closed, and the options in use are those of the new configuration already.
  · have hconfig : c.current_config.map Config.nats_opt = some new_config.nats_opt := by
      unfold changed at hchanged
      simpa using hchanged
    exact ⟨hconfig, fun client hclient =>
      Option.some.inj ((h.opened client hclient).symm.trans hconfig)⟩

/-- A reload with the pinned options changes nothing. -/
theorem Pinned.check {opts : NatsConnectionOptions} (h : Pinned opts c) {new_config : Config}
    (hopts : new_config.nats_opt = opts) : c.checkAndInvalidateConnection new_config = c := by
  unfold checkAndInvalidateConnection changed
  rw [if_neg]
  rw [h.config, hopts]
  simp

/-- Clients with the same fields are pinned to the same options. -/
theorem Pinned.of_link {opts : NatsConnectionOptions} {c' : NatsClient} (h : Pinned opts c)
    (hlink : c'.link = c.link) : Pinned opts c' := by
  obtain ⟨hconn, hrest⟩ := Prod.mk.inj hlink
  obtain ⟨-, hconfig⟩ := Prod.mk.inj hrest
  exact ⟨hconfig ▸ h.config, fun client hclient => h.connection client (hconn.symm.trans hclient)⟩

/-- Opening a connection keeps the options pinned, unless it fails. -/
theorem pinned_ensureConnection {opts : NatsConnectionOptions} {a : Answers} (h : Pinned opts c)
    (hconnects : c.connection = none → a.connected = true) :
    Pinned opts (c.ensureConnection a).1 := by
  rcases ensureConnection_cases c a with
    ⟨client, -, hens⟩ | ⟨-, -, client, hclient, hens⟩ | ⟨hconn, hfails, -⟩
  · rw [hens]
    exact h
  · obtain ⟨config, hconfig, hopts⟩ := Option.map_eq_some_iff.mp h.config
    rw [hconfig, Option.getD_some, hopts] at hclient
    rw [hens, hconfig]
    exact ⟨congrArg some hopts, fun client' hclient' => Option.some.inj hclient' ▸ hclient⟩
  · exact absurd (hconnects hconn) (by rw [hfails]; exact Bool.false_ne_true)

/-- An operation that is no reload, and whose connection does not fail, keeps the options pinned. -/
theorem pinned_step {opts : NatsConnectionOptions} {c' : NatsClient} {e : Operation × Answers}
    (hlinked : Linked c) (h : Pinned opts c)
    (hok : e.1.isReload = false ∧ ¬ ConnectFails c e) (hstep : step c e = some c') :
    Pinned opts c' := by
  obtain rfl : (c.perform e.2 e.1).1 = c' := Option.some.inj hstep
  obtain ⟨hop, hconnects⟩ := hok
  have hlink := (kept_perform hlinked e.2 hop).link
  split_ifs at hlink with hneeds
  · refine (pinned_ensureConnection h fun hconn => ?_).of_link hlink
    by_contra hfails
    exact hconnects ⟨hconn, hneeds, Bool.eq_false_iff.mpr hfails⟩
  · exact h.of_link hlink

end Operations

/-! ## Whole runs -/

/-- In every state of a client, the connection, the context, and the configuration belong together,
and no `expect` of the next operation fails. After a reload, as long as no connection fails and no
other reload happens, the connection and the context are of a connection with its options, and a
reload with the same options changes nothing. -/
theorem linked_of_run (config : Option Config) {es : List (Operation × Answers)} {c : NatsClient}
    (hrun : Run.run step (new config) es = some c) :
    c.jetstream = c.connection.map JetStream.mk ∧
      (∀ client, c.connection = some client →
        ∃ config, c.current_config = some config ∧ config.nats_opt = client.opts) ∧
      (∀ a op, (c.perform a op).2 ≠ .error .panic) ∧
      ∀ new_config es' c',
        RunAll step (fun c e => e.1.isReload = false ∧ ¬ ConnectFails c e)
          (c.checkAndInvalidateConnection new_config) es' →
        Run.run step (c.checkAndInvalidateConnection new_config) es' = some c' →
          (∀ client, c'.connection = some client → client.opts = new_config.nats_opt) ∧
          (∀ jetstream, c'.jetstream = some jetstream →
            jetstream.client.opts = new_config.nats_opt) ∧
          ∀ config, config.nats_opt = new_config.nats_opt →
            c'.checkAndInvalidateConnection config = c' := by
  have hnew : Linked (new config) := ⟨rfl, fun client hclient => absurd hclient (by simp [new])⟩
  have h : Linked c := Run.run_invariant_of_step (fun _ _ _ => linked_step) hnew hrun
  refine ⟨h.context, fun client hclient => ?_, perform_no_panic h, ?_⟩
  · exact Option.map_eq_some_iff.mp (h.opened client hclient)
  · intro new_config es' c' hok hrun'
    obtain ⟨hlinked, hpinned⟩ := Run.run_invariant_under (fun _ _ _ => linked_step)
      (fun _ _ _ => pinned_step) (linked_checkAndInvalidateConnection h new_config)
      (pinned_checkAndInvalidateConnection h new_config) hok hrun'
    refine ⟨hpinned.connection, fun jetstream hjetstream => ?_, fun config => hpinned.check⟩
    rw [hlinked.context] at hjetstream
    obtain ⟨client, hclient, rfl⟩ := Option.map_eq_some_iff.mp hjetstream
    exact hpinned.connection client hclient

/-- A reload with another port between two operations, and a connection that is then made. -/
theorem linked_after_reload :
    ∃ c c', Run.run step (new none) [(.getServerInfo, ⟨validatorConfig [], true, true, true⟩)] =
        some c ∧
      c.connection = some ⟨0, (validatorConfig []).nats_opt⟩ ∧
      Run.run step (c.checkAndInvalidateConnection (validatorConfig ["port=4223"]))
        [(.putValue "b" true, ⟨validatorConfig [], true, false, true⟩)] = some c' ∧
      c'.connection = some ⟨1, (validatorConfig ["port=4223"]).nats_opt⟩ ∧
      ∀ jetstream, c'.jetstream = some jetstream →
        jetstream.client.opts = (validatorConfig ["port=4223"]).nats_opt := by
  obtain ⟨c, c', hrun, hconn, hok, hrun', hconn'⟩ : ∃ c c', Run.run step (new none)
      [(.getServerInfo, ⟨validatorConfig [], true, true, true⟩)] = some c ∧
      c.connection = some ⟨0, (validatorConfig []).nats_opt⟩ ∧
      RunAll step (fun c e => e.1.isReload = false ∧ ¬ ConnectFails c e)
        (c.checkAndInvalidateConnection (validatorConfig ["port=4223"]))
        [(.putValue "b" true, ⟨validatorConfig [], true, false, true⟩)] ∧
      Run.run step (c.checkAndInvalidateConnection (validatorConfig ["port=4223"]))
        [(.putValue "b" true, ⟨validatorConfig [], true, false, true⟩)] = some c' ∧
      c'.connection = some ⟨1, (validatorConfig ["port=4223"]).nats_opt⟩ :=
    ⟨_, _, rfl, rfl, by decide, rfl, rfl⟩
  exact ⟨c, c', hrun, hconn, hrun', hconn',
    ((linked_of_run none hrun).2.2.2 _ _ c' hok hrun').2.1⟩

end PgNats.NatsClient
