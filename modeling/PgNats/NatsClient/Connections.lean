import PgNats.NatsClient.Link

/-!
# The connections of a backend

What happens to the connections that a backend opens. `invalidate_connection` drains the connection
that it takes, and nothing else takes one. A reload calls it, and so do `_PG_fini` and the callback
at the end of the process (`src/init.rs`).

`Accounts` compares two states of a client with the connections that are drained in between, and
`every_connection_drained` puts it together for whole runs: the connections are drained in the order
in which they are opened, each of them once, and before the next one is opened.
-/

namespace PgNats.NatsClient

variable {c c' c'' : NatsClient} {a : Answers}

/-! ## How an operation leaves the client -/

/-- `get_connection` leaves the client that opening the connection leaves. -/
theorem getConnection_fst : (c.getConnection a).1 = (c.ensureConnection a).1 := by
  unfold getConnection
  generalize c.ensureConnection a = r
  obtain ⟨c', _ | _⟩ := r <;> rfl

/-- `get_jetstream` leaves the client that opening the connection leaves. -/
theorem getJetstream_fst : (c.getJetstream a).1 = (c.ensureConnection a).1 := by
  unfold getJetstream
  generalize c.ensureConnection a = r
  obtain ⟨c', _ | _⟩ := r <;> rfl

/-- An operation that closes no connection leaves the client as it is, or as opening the connection
or getting a handle leaves it. -/
theorem perform_of_handles {P : NatsClient → Prop} {op : Operation}
    (hop : c.Invalidates op = false) (hsame : P c) (hconnect : P (c.ensureConnection a).1)
    (hbucket : ∀ bucket, P (c.onBucket bucket a).1)
    (hstore : ∀ store, P (c.onObjectStore store a).1) : P (c.perform a op).1 := by
  have hconnection : P (c.getConnection a).1 := getConnection_fst ▸ hconnect
  have hcontext : P (c.getJetstream a).1 := getJetstream_fst ▸ hconnect
  cases op with
  | publish encoded =>
    show P (c.publish encoded a).1
    unfold publish
    split_ifs
    · exact hconnection
    · exact hsame
  | request encoded =>
    show P (c.request encoded a).1
    unfold request
    split_ifs
    · exact hconnection
    · exact hsame
  | publishStream encoded =>
    show P (c.publishStream encoded a).1
    unfold publishStream
    split_ifs
    · generalize c.getJetstream a = r at hcontext
      obtain ⟨c', _ | _⟩ := r <;> exact hcontext
    · exact hsame
  | getServerInfo => exact hconnection
  | putValue bucket encoded =>
    have hhandle := hbucket bucket
    show P (c.putValue bucket encoded a).1
    unfold putValue
    generalize c.onBucket bucket a = r at hhandle
    obtain ⟨c', _ | _⟩ := r <;> exact hhandle
  | getValue bucket => exact hbucket bucket
  | deleteValue bucket => exact hbucket bucket
  | getFile store => exact hstore store
  | putFile store => exact hstore store
  | deleteFile store => exact hstore store
  | getFileInfo store => exact hstore store
  | getFileList store => exact hstore store
  | invalidateConnection => exact absurd hop (by simp [Invalidates])
  | checkAndInvalidateConnection new_config =>
    have hunchanged : c.changed new_config = false := hop
    show P (c.checkAndInvalidateConnection new_config)
    unfold checkAndInvalidateConnection
    rw [hunchanged, if_neg Bool.false_ne_true]
    exact hsame

/-! ## Opened and drained -/

/-- The connection that an operation drains. -/
def drained (c : NatsClient) (e : Operation × Answers) : Option Client :=
  if c.Invalidates e.1 then c.connection else none

/-- From one state to a later one, with what is drained in between: the connections that are drained
or still there are the one that was there and those that have been opened, in this order. -/
def Accounts (c : NatsClient) (clients : List Client) (c' : NatsClient) : Prop :=
  ∃ n, c'.opened = c.opened + n ∧
    (clients ++ c'.connection.toList).map Client.id =
      c.connection.toList.map Client.id ++ List.range' c.opened n

/-- Nothing is opened and nothing is drained. -/
theorem Accounts.of_eq (hopened : c'.opened = c.opened) (hconn : c'.connection = c.connection) :
    Accounts c [] c' :=
  ⟨0, hopened, by rw [hconn, List.nil_append, List.range'_zero, List.append_nil]⟩

/-- The accounts of two parts of a run. -/
theorem Accounts.trans {clients clients' : List Client} (h : Accounts c clients c')
    (h' : Accounts c' clients' c'') : Accounts c (clients ++ clients') c'' := by
  obtain ⟨n, hopened, hids⟩ := h
  obtain ⟨n', hopened', hids'⟩ := h'
  refine ⟨n + n', by rw [hopened', hopened, Nat.add_assoc], ?_⟩
  rw [List.map_append] at hids
  rw [List.append_assoc, List.map_append, hids', ← List.append_assoc, hids, hopened,
    List.append_assoc, List.range'_append_1]

/-- A client that differs in its caches only has the same account. -/
theorem Accounts.of_link {clients : List Client} (h : Accounts c clients c')
    (hopened : c''.opened = c'.opened) (hconn : c''.connection = c'.connection) :
    Accounts c clients c'' := by
  have hrest := h.trans (.of_eq hopened hconn)
  rwa [List.append_nil] at hrest

/-- A connection is opened only when there is none. -/
theorem accounts_ensureConnection : Accounts c [] (c.ensureConnection a).1 := by
  unfold ensureConnection
  cases hconn : c.connection with
  | some client => exact .of_eq rfl rfl
  | none =>
    rw [Option.isNone_none, if_pos rfl]
    unfold initializeConnection
    cases a.connected with
    -- The new connection has the next number.
    | true => exact ⟨1, rfl, by rw [hconn]; rfl⟩
    | false => exact .of_eq rfl rfl

/-- Getting a bucket opens the connection at most. -/
theorem accounts_onBucket (bucket : String) : Accounts c [] (c.onBucket bucket a).1 := by
  have hcontext : Accounts c [] (c.getJetstream a).1 :=
    getJetstream_fst ▸ accounts_ensureConnection
  rcases onBucket_cases c bucket a with
    ⟨store, -, hcall⟩ | ⟨-, ⟨e, -, hcall⟩ | ⟨jetstream, -, hcall⟩ | hcall⟩
  · rw [hcall]
    exact .of_eq rfl rfl
  · rw [hcall]
    exact hcontext
  · rw [hcall]
    exact hcontext.of_link rfl rfl
  · rw [hcall]
    exact hcontext

/-- Getting an object store opens the connection at most. -/
theorem accounts_onObjectStore (store : String) : Accounts c [] (c.onObjectStore store a).1 := by
  have hcontext : Accounts c [] (c.getJetstream a).1 :=
    getJetstream_fst ▸ accounts_ensureConnection
  rcases onObjectStore_cases c store a with
    ⟨handle, -, hcall⟩ | ⟨-, ⟨e, -, hcall⟩ | ⟨jetstream, -, hcall⟩ | hcall⟩
  · rw [hcall]
    exact .of_eq rfl rfl
  · rw [hcall]
    exact hcontext
  · rw [hcall]
    exact hcontext.of_link rfl rfl
  · rw [hcall]
    exact hcontext

/-- An invalidation opens no connection. -/
theorem opened_of_invalidates {op : Operation} (hop : c.Invalidates op = true) :
    (c.perform a op).1.opened = c.opened := by
  cases op with
  | invalidateConnection => rfl
  | checkAndInvalidateConnection new_config =>
    show (c.checkAndInvalidateConnection new_config).opened = c.opened
    unfold checkAndInvalidateConnection
    split_ifs <;> rfl
  | _ => exact absurd hop Bool.false_ne_true

/-- Every operation accounts for the connections. -/
theorem accounts_step {e : Operation × Answers} (hstep : step c e = some c') :
    Accounts c (c.drained e).toList c' := by
  obtain rfl : (c.perform e.2 e.1).1 = c' := Option.some.inj hstep
  unfold drained
  cases hop : c.Invalidates e.1 with
  | false =>
    exact perform_of_handles hop (.of_eq rfl rfl) accounts_ensureConnection accounts_onBucket
      accounts_onObjectStore
  | true =>
    -- What was taken is drained, and no connection is there.
    refine ⟨0, opened_of_invalidates hop, ?_⟩
    rw [if_pos rfl, (perform_invalidates hop e.2).1, Option.toList_none, List.append_nil,
      List.range'_zero, List.append_nil]

/-- A run accounts for the connections. -/
theorem accounts_of_run {es : List (Operation × Answers)} (hrun : Run.run step c es = some c') :
    Accounts c (Run.observe step drained c es) c' := by
  have hnil : ∀ c, Accounts c [] c := fun c => .of_eq rfl rfl
  have hstep : ∀ c e c', True → step c e = some c' → Accounts c (c.drained e).toList c' :=
    fun _ _ _ _ => accounts_step
  exact Run.run_account hnil .trans hstep (.of_forall_mem fun _ _ => trivial) hrun

/-- A run of a new client drains what it has opened, but for the connection that is there. -/
theorem drained_of_run {config : Option Config} {es : List (Operation × Answers)}
    (hrun : Run.run step (new config) es = some c) :
    (Run.observe step drained (new config) es ++ c.connection.toList).map Client.id =
      List.range c.opened := by
  obtain ⟨n, hopened, hids⟩ := accounts_of_run hrun
  have hn : c.opened = n := hopened.trans (Nat.zero_add n)
  rw [hids, hn, List.range_eq_range']
  rfl

/-- In every run of a backend, whatever operations it makes and whatever they are answered: the
connections that have been drained, and the one that is there, are all that were opened, each of
them once and in the order of opening. The callback at the end of the process drains the last one.
-/
theorem every_connection_drained (config : Option Config) (es : List (Operation × Answers))
    (a : Answers) : ∃ c, Run.run step (new config) es = some c ∧
      (Run.observe step drained (new config) es ++ c.connection.toList).map Client.id =
        List.range c.opened ∧
      (Run.observe step drained (new config) (es ++ [(.invalidateConnection, a)])).map Client.id =
        List.range c.opened := by
  have hstep : ∀ c e, ∃ c', step c e = some c' := fun c e => ⟨_, rfl⟩
  obtain ⟨c, hrun⟩ := Run.run_total hstep (new config) es
  have hexit : Run.run step (new config) (es ++ [(.invalidateConnection, a)])
      = some c.invalidateConnection := by
    rw [Run.run_append, hrun]
    rfl
  have hall := drained_of_run hexit
  rw [show c.invalidateConnection.connection = none from rfl, Option.toList_none,
    List.append_nil] at hall
  exact ⟨c, hrun, drained_of_run hrun, hall⟩

end PgNats.NatsClient
