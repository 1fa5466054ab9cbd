import PgNats.System.Deadlock
import PgNats.System.Running

/-!
# Whether a running worker uses the committed configuration

A configuration reaches a worker on two paths. The validator posts it before its transaction ends,
and the launcher forwards it to the registered worker and drops it for a pending one. And a worker
reads the committed configuration when it starts. Nothing is posted when a transaction commits or is
rolled back.

`config_of_quiescent` says when a worker has the committed configuration once all is quiet. When a
transaction ends, the configuration that is committed then must be the one posted last, unless its
poster is still open (`CommitSafe`, `RollbackSafe`). A worker must not read its configuration while
the last poster is open and its message is gone (`FetchSafe`), and the launcher must not drop the
last message for a worker that has read another configuration before (`DropSafe`). The invariant is
`Configured`: the last configuration on its way to a worker is the one posted last, and a worker to
which none is on its way has it.
-/

namespace PgNats

/-- The configuration that a message carries for this database, if it carries one. -/
def LauncherMessage.configFor? (d : Oid) : LauncherMessage → Option Config
  | .newConfig d' config => if d' = d then some config else none
  | _ => none

/-- The configuration that the process has, if it has read one and not left. -/
def Pc.config? : Pc → Option Config
  | .connecting config => some config
  | .attaching config => some config
  | .looping sub => some sub.ctx.config
  | _ => none

/-- The messages in the queue of the process. -/
def Pc.queue : Pc → List SubscriberMessage
  | .looping sub => sub.recv
  | _ => []

namespace System

/-- The configurations of this database on the bus. -/
def busConfigs (bus : List Item) (d : Oid) : List Config :=
  bus.filterMap fun item => item.msg.configFor? d

/-- The configuration that the launcher is sending to this worker, if there is one. -/
def sending? (launcher : LauncherPc) (g : ℕ) : Option Config :=
  match launcher with
  | .sending worker msg => if worker = g then msg.config? else none
  | _ => none

/-- The configurations on their way to a worker of a database, in the order in which it gets them:
in its queue, in a send to it, and on the bus. -/
def wayTo (s : System) (d : Oid) (g : ℕ) (pc : Pc) : List Config :=
  pc.queue.filterMap SubscriberMessage.config? ++ (sending? s.launcher g).toList ++
    busConfigs s.bus d

/-- The last transaction that has posted a configuration of this database, and the
configuration. -/
def lastPosted (s : System) (d : Oid) : Option (ℕ × Config) :=
  (s.posted.find? fun post => post.2.1 = d).map fun post => (post.1, post.2.2)

/-- The last poster is open. -/
def PosterOpen (s : System) (d : Oid) : Prop :=
  ∃ post ∈ s.lastPosted d, (s.txns.lookup post.1).isSome

instance (s : System) (d : Oid) : Decidable (s.PosterOpen d) :=
  inferInstanceAs (Decidable (∃ post ∈ s.lastPosted d, (s.txns.lookup post.1).isSome))

/-- The configuration posted last, or the committed one when none has been posted. -/
def lastConfig (s : System) (d : Oid) : Config :=
  match s.lastPosted d with
  | some post => post.2
  | none => fetchConfig (s.catalog d).servers

/-- There is a server whose configuration a worker should have: a committed one, or that of the last
poster. -/
def Expects (s : System) (d : Oid) : Prop := s.PosterOpen d ∨ (s.catalog d).servers ≠ []

instance (s : System) (d : Oid) : Decidable (s.Expects d) :=
  inferInstanceAs (Decidable (s.PosterOpen d ∨ (s.catalog d).servers ≠ []))

/-- The commit of this transaction leaves no server, or another transaction has posted since and is
open, or it leaves the configuration posted last, which is its own or that of a server there
before. -/
def CommitSafe (s : System) (t : ℕ) : Prop :=
  ∀ txn ∈ s.txns.lookup t,
    txn.change.apply (s.catalog txn.db).servers = [] ∨
    (∃ post ∈ s.lastPosted txn.db, post.1 ≠ t ∧ (s.txns.lookup post.1).isSome) ∨
    (((∃ post ∈ s.lastPosted txn.db, post.1 = t) ∨ (s.catalog txn.db).servers ≠ []) ∧
      fetchConfig (txn.change.apply (s.catalog txn.db).servers) = s.lastConfig txn.db)

/-- The end of this transaction without a commit leaves no server, or the transaction was not the
last poster, or it had posted the configuration that is committed. -/
def RollbackSafe (s : System) (t : ℕ) : Prop :=
  ∀ txn ∈ s.txns.lookup t, ∀ post ∈ s.lastPosted txn.db, post.1 = t →
    (s.catalog txn.db).servers = [] ∨ fetchConfig (s.catalog txn.db).servers = post.2

/-- The worker of a database does not read another configuration than the one posted last while its
poster is open and its message is neither on the bus nor in a send to the worker. -/
def FetchSafe (s : System) (g : ℕ) : Prop :=
  ∀ p ∈ s.procs[g]?, (s.ctx.entry? p.db).map WorkerEntry.worker = some g → s.PosterOpen p.db →
    busConfigs s.bus p.db = [] → sending? s.launcher g = none →
    fetchConfig (s.catalog p.db).servers = s.lastConfig p.db

/-- The last configuration of a database on the bus is not dropped for a pending worker that has
read another one. -/
def DropSafe (s : System) : Prop :=
  ∀ item ∈ s.bus.head?, ∀ config ∈ item.msg.configFor? item.msg.dbOid,
    busConfigs s.bus.tail item.msg.dbOid = [] → s.Expects item.msg.dbOid →
    ∀ entry ∈ s.ctx.pending_workers.lookup item.msg.dbOid, ∀ p ∈ s.procs[entry.worker]?,
      ∀ config' ∈ p.pc.config?, config' = config

instance (s : System) (t : ℕ) : Decidable (s.CommitSafe t) :=
  inferInstanceAs (Decidable (∀ txn ∈ s.txns.lookup t,
    txn.change.apply (s.catalog txn.db).servers = [] ∨
    (∃ post ∈ s.lastPosted txn.db, post.1 ≠ t ∧ (s.txns.lookup post.1).isSome) ∨
    (((∃ post ∈ s.lastPosted txn.db, post.1 = t) ∨ (s.catalog txn.db).servers ≠ []) ∧
      fetchConfig (txn.change.apply (s.catalog txn.db).servers) = s.lastConfig txn.db)))

instance (s : System) (t : ℕ) : Decidable (s.RollbackSafe t) :=
  inferInstanceAs (Decidable (∀ txn ∈ s.txns.lookup t, ∀ post ∈ s.lastPosted txn.db, post.1 = t →
    (s.catalog txn.db).servers = [] ∨ fetchConfig (s.catalog txn.db).servers = post.2))

instance (s : System) (g : ℕ) : Decidable (s.FetchSafe g) :=
  inferInstanceAs (Decidable (∀ p ∈ s.procs[g]?,
    (s.ctx.entry? p.db).map WorkerEntry.worker = some g → s.PosterOpen p.db →
    busConfigs s.bus p.db = [] → sending? s.launcher g = none →
    fetchConfig (s.catalog p.db).servers = s.lastConfig p.db))

instance (s : System) : Decidable s.DropSafe :=
  inferInstanceAs (Decidable (∀ item ∈ s.bus.head?, ∀ config ∈ item.msg.configFor? item.msg.dbOid,
    busConfigs s.bus.tail item.msg.dbOid = [] → s.Expects item.msg.dbOid →
    ∀ entry ∈ s.ctx.pending_workers.lookup item.msg.dbOid, ∀ p ∈ s.procs[entry.worker]?,
      ∀ config' ∈ p.pc.config?, config' = config))

/-- The transaction that commits in the event. -/
def Event.commits? : Event → Option ℕ
  | .commit t => some t
  | _ => none

/-- The transaction that the event rolls back, or that its trigger rejects when a server is
committed. -/
def Event.rollsBack? (s : System) : Event → Option ℕ
  | .rollback t => some t
  | .execute t => (s.txns.lookup t).bind fun txn =>
      if txn.change.creates ∧ (s.catalog txn.db).servers ≠ [] then some t else none
  | _ => none

/-- The process that reads its configuration in the event. -/
def Event.fetches? : Event → Option ℕ
  | .proc g .fetch => some g
  | _ => none

/-- Whether a connection that a new configuration needs fails in the event. -/
def Event.disconnects : Event → Bool
  | .proc _ (.loop (.sharedRecv connected)) => !connected
  | _ => false

/-- What is assumed of a step: the connections of the running workers succeed. -/
def Connects (_ : System) (e : Event) : Prop := e.disconnects = false

instance (s : System) (e : Event) : Decidable (s.Connects e) :=
  inferInstanceAs (Decidable (e.disconnects = false))

/-- The condition on a step. -/
def ConfigSafe (s : System) (e : Event) : Prop :=
  (∀ t ∈ e.commits?, s.CommitSafe t) ∧ (∀ t ∈ e.rollsBack? s, s.RollbackSafe t) ∧
    (∀ g ∈ e.fetches?, s.FetchSafe g) ∧ (e.takes → s.DropSafe)

instance (s : System) (e : Event) : Decidable (s.ConfigSafe e) :=
  inferInstanceAs (Decidable ((∀ t ∈ e.commits?, s.CommitSafe t) ∧
    (∀ t ∈ e.rollsBack? s, s.RollbackSafe t) ∧ (∀ g ∈ e.fetches?, s.FetchSafe g) ∧
    (e.takes → s.DropSafe)))

/-- The invariant. -/
structure Configured (s : System) : Prop where
  /-- An open transaction has a number given out before. -/
  txns : ∀ t txn, s.txns.lookup t = some txn → t < s.next_txn
  /-- And so has a poster. -/
  posted : ∀ post ∈ s.posted, post.1 < s.next_txn
  /-- A transaction posts about its own database. -/
  posters : ∀ post ∈ s.posted, ∀ txn, s.txns.lookup post.1 = some txn → txn.db = post.2.1
  /-- The last configuration on the bus is the one posted last. -/
  bus : ∀ d config, (busConfigs s.bus d).getLast? = some config →
    (s.lastPosted d).map Prod.snd = some config
  /-- The queue of a pending worker is empty. -/
  pending : ∀ d entry p, s.ctx.pending_workers.lookup d = some entry →
    s.procs[entry.worker]? = some p → p.pc.queue = []
  /-- The last configuration on its way to the worker of an entry is the one posted last. -/
  way : ∀ d entry p, s.ctx.Has d entry → s.procs[entry.worker]? = some p → ∀ config,
    (s.wayTo d entry.worker p.pc).getLast? = some config →
    (s.lastPosted d).map Prod.snd = some config
  /-- The worker of an entry to which no configuration is on its way has the one posted last. -/
  current : ∀ d entry p, s.ctx.Has d entry → s.procs[entry.worker]? = some p →
    s.wayTo d entry.worker p.pc = [] → s.Expects d → ∀ config, p.pc.config? = some config →
    config = s.lastConfig d
  /-- The committed configuration is the one posted last, unless its poster is open. -/
  committed : ∀ d, ¬ s.PosterOpen d → (s.catalog d).servers ≠ [] →
    fetchConfig (s.catalog d).servers = s.lastConfig d

variable {s s' : System} {e : Event}

/-! ## The transactions -/

/-- A configuration posted last is the last configuration. -/
theorem lastConfig_of_lastPosted {d : Oid} {config : Config}
    (h : (s.lastPosted d).map Prod.snd = some config) : s.lastConfig d = config := by
  obtain ⟨post, hpost, rfl⟩ := Option.map_eq_some_iff.mp h
  unfold lastConfig
  rw [hpost]

/-- The last poster is one of the posters. -/
theorem mem_posted_of_lastPosted {d : Oid} {post : ℕ × Config} (h : post ∈ s.lastPosted d) :
    (post.1, d, post.2) ∈ s.posted := by
  obtain ⟨⟨t, d', config⟩, hfind, rfl⟩ := Option.map_eq_some_iff.mp h
  obtain rfl : d' = d := by simpa using List.find?_some hfind
  exact List.mem_of_find?_eq_some hfind

/-- The last configuration is the same, when the last poster is, and the committed one is what it
was in case that none has been posted. -/
theorem lastConfig_congr {d : Oid} (hlast : s'.lastPosted d = s.lastPosted d)
    (h : s.lastPosted d = none → fetchConfig (s'.catalog d).servers = s.lastConfig d) :
    s'.lastConfig d = s.lastConfig d := by
  cases hposted : s.lastPosted d with
  | some post =>
    unfold lastConfig
    rw [hlast, hposted]
  | none =>
    rw [← h hposted]
    unfold lastConfig
    rw [hlast, hposted]

/-- What a step that posts nothing about a database leaves to prove about it: the configuration that
its workers should have stays the same, and the committed one is the one posted last when its poster
has ended. -/
structure Settles (s s' : System) (d : Oid) : Prop where
  /-- The configuration that the workers should have stays the same. -/
  expects : s'.Expects d → s.Expects d ∧ s'.lastConfig d = s.lastConfig d
  /-- The committed configuration is the one posted last, unless its poster is open. -/
  committed : ¬ s'.PosterOpen d → (s'.catalog d).servers ≠ [] →
    fetchConfig (s'.catalog d).servers = s'.lastConfig d

/-- A step that changes neither the servers of a database nor whether the last poster is open. -/
theorem settles_same (hs : s.Configured) {d : Oid} (hlast : s'.lastPosted d = s.lastPosted d)
    (hservers : (s'.catalog d).servers = (s.catalog d).servers)
    (hopen : ∀ post ∈ s.lastPosted d,
      (s'.txns.lookup post.1).isSome = (s.txns.lookup post.1).isSome) : Settles s s' d := by
  have hiff : s'.PosterOpen d ↔ s.PosterOpen d := by
    unfold PosterOpen
    rw [hlast]
    constructor
    · rintro ⟨post, hpost, hsome⟩
      exact ⟨post, hpost, hopen post hpost ▸ hsome⟩
    · rintro ⟨post, hpost, hsome⟩
      exact ⟨post, hpost, (hopen post hpost).symm ▸ hsome⟩
  have hsame : s'.lastConfig d = s.lastConfig d := by
    refine lastConfig_congr hlast fun hnone => ?_
    unfold lastConfig
    rw [hnone, hservers]
  constructor
  · intro hexpects
    refine ⟨?_, hsame⟩
    unfold Expects at hexpects ⊢
    rwa [hiff, hservers] at hexpects
  · intro hnotOpen hne
    rw [hservers] at hne ⊢
    rw [hsame]
    exact hs.committed d (fun h => hnotOpen (hiff.mpr h)) hne

/-- A transaction ends without a commit. -/
theorem settles_rollback (hs : s.Configured) {t : ℕ} {txn : Txn}
    (htxn : s.txns.lookup t = some txn) (hok : s.RollbackSafe t) (d : Oid) :
    Settles s { s with txns := s.txns.erase t } d := by
  by_cases hposter : ∃ post ∈ s.lastPosted d, post.1 = t
  · obtain ⟨post, hpost, rfl⟩ := hposter
    -- The last poster goes, so the committed configuration must be its own.
    have hdb : txn.db = d := hs.posters _ (mem_posted_of_lastPosted hpost) txn htxn
    have hopen : s.PosterOpen d := ⟨post, hpost, by rw [htxn]; rfl⟩
    have hlast : ({ s with txns := s.txns.erase post.1 } : System).lastConfig d = s.lastConfig d :=
      rfl
    refine ⟨fun _ => ⟨Or.inl hopen, hlast⟩, fun _ hservers => ?_⟩
    rcases hok txn htxn post (hdb ▸ hpost) rfl with hnone | hsame
    · exact absurd (hdb ▸ hnone) hservers
    · rw [hlast, lastConfig_of_lastPosted (by rw [hpost]; rfl), ← hsame, hdb]
  -- Another transaction ends, and the last poster is as open as before.
  · refine settles_same hs rfl rfl fun post hpost => ?_
    have hne : post.1 ≠ t := fun heq => hposter ⟨post, hpost, heq⟩
    show ((s.txns.erase t).lookup post.1).isSome = _
    rw [AList.lookup_erase_ne hne]

/-- A transaction commits, in its own database. -/
theorem settles_commit_own {t : ℕ} {txn : Txn} (htxn : s.txns.lookup t = some txn)
    (hok : s.CommitSafe t) (hlast : s'.lastPosted txn.db = s.lastPosted txn.db)
    (htxns : s'.txns = s.txns.erase t)
    (hservers : (s'.catalog txn.db).servers = txn.change.apply (s.catalog txn.db).servers) :
    Settles s s' txn.db := by
  -- A poster that is open afterwards is another transaction.
  have hother : s'.PosterOpen txn.db →
      ∃ post ∈ s.lastPosted txn.db, post.1 ≠ t ∧ (s.txns.lookup post.1).isSome := by
    rintro ⟨post, hpost, hsome⟩
    rw [hlast] at hpost
    rw [htxns] at hsome
    have hne : post.1 ≠ t := by
      intro heq
      rw [heq, AList.lookup_erase] at hsome
      exact absurd hsome (by simp)
    rw [AList.lookup_erase_ne hne] at hsome
    exact ⟨post, hpost, hne, hsome⟩
  have hback : (∃ post ∈ s.lastPosted txn.db, post.1 ≠ t ∧ (s.txns.lookup post.1).isSome) →
      s'.PosterOpen txn.db := by
    rintro ⟨post, hpost, hne, hsome⟩
    refine ⟨post, hlast.symm ▸ hpost, ?_⟩
    rwa [htxns, AList.lookup_erase_ne hne]
  have hsettled : ¬ s'.PosterOpen txn.db → (s'.catalog txn.db).servers ≠ [] →
      s.Expects txn.db ∧ fetchConfig (s'.catalog txn.db).servers = s.lastConfig txn.db := by
    intro hnotOpen hne
    rw [hservers] at hne ⊢
    rcases hok txn htxn with hnone | hopen | ⟨hcause, hsame⟩
    · exact absurd hnone hne
    · exact absurd (hback hopen) hnotOpen
    · refine ⟨?_, hsame⟩
      rcases hcause with ⟨post, hpost, rfl⟩ | hbefore
      · exact Or.inl ⟨post, hpost, by rw [htxn]; rfl⟩
      · exact Or.inr hbefore
  constructor
  · intro hexpects
    -- While another poster is open, its configuration is the one to have, whatever commits.
    by_cases hopen : s'.PosterOpen txn.db
    · obtain ⟨post, hpost, hne, hsome⟩ := hother hopen
      refine ⟨Or.inl ⟨post, hpost, hsome⟩, lastConfig_congr hlast fun hnone => ?_⟩
      exact absurd (hnone.symm.trans hpost) (by simp)
    · obtain ⟨hbefore, hsame⟩ := hsettled hopen (hexpects.resolve_left hopen)
      exact ⟨hbefore, lastConfig_congr hlast fun _ => hsame⟩
  · intro hnotOpen hne
    obtain ⟨-, hsame⟩ := hsettled hnotOpen hne
    rw [hsame, lastConfig_congr hlast fun _ => hsame]

/-- A transaction commits. -/
theorem settles_commit (hs : s.Configured) {t : ℕ} {txn : Txn}
    (htxn : s.txns.lookup t = some txn) (hok : s.CommitSafe t) (d : Oid) :
    Settles s { s with
      txns := s.txns.erase t
      catalog := Function.update s.catalog txn.db { s.catalog txn.db with
        servers := txn.change.apply (s.catalog txn.db).servers } } d := by
  rcases eq_or_ne d txn.db with rfl | hdb
  · refine settles_commit_own htxn hok rfl rfl ?_
    show (Function.update s.catalog txn.db _ txn.db).servers = _
    rw [Function.update_self]
  · refine settles_same hs rfl ?_ fun post hpost => ?_
    · show (Function.update s.catalog txn.db _ d).servers = _
      rw [Function.update_of_ne hdb]
    -- The transaction is not a poster of another database.
    · have hne : post.1 ≠ t := by
        rintro rfl
        exact hdb (hs.posters _ (mem_posted_of_lastPosted hpost) txn htxn).symm
      show ((s.txns.erase t).lookup post.1).isSome = _
      rw [AList.lookup_erase_ne hne]

/-- The validator posts a configuration about this database. -/
def Posts (e : Event) (d : Oid) (config : Config) : Prop :=
  ∃ change, e = .ddl d change ∧ change.config? = some config

/-- The last poster of a database is the same, unless the step posts about it. -/
theorem lastPosted_of_step (h : Transition s e s') {d : Oid} (hno : ∀ config, ¬ Posts e d config) :
    s'.lastPosted d = s.lastPosted d := by
  rcases catalog_of_step h with hbackend | ⟨-, -, -, hposted⟩
  · cases hbackend with
    | @ddl d' change hlock hinstalled happlies =>
      unfold lastPosted
      show ((change.config?.toList.map (fun config => (s.next_txn, d', config)) ++
        s.posted).find? _).map _ = _
      cases hconfig : change.config? with
      | none => rfl
      | some config =>
        have hne : d' ≠ d := by
          rintro rfl
          exact hno config ⟨change, rfl, hconfig⟩
        rw [Option.toList_some, List.map_cons, List.map_nil, List.singleton_append,
          List.find?_cons_of_neg (by simpa using hne)]
    | _ => rfl
  · unfold lastPosted
    rw [hposted]

/-- A step that posts nothing about a database. -/
theorem settles_of_step (hs : s.Configured) (hok : s.ConfigSafe e) (h : Transition s e s') {d : Oid}
    (hno : ∀ config, ¬ Posts e d config) : Settles s s' d := by
  have hlast := lastPosted_of_step h hno
  rcases catalog_of_step h with hbackend | ⟨hcatalog, htxns, -⟩
  · cases hbackend with
    | request hlock => exact settles_same hs rfl rfl fun _ _ => rfl
    | ddl hlock hinstalled happlies =>
      refine settles_same hs hlast rfl fun post hpost => ?_
      have hne : post.1 ≠ s.next_txn :=
        Nat.ne_of_lt (hs.posted _ (mem_posted_of_lastPosted hpost))
      show ((s.txns.insert s.next_txn _).lookup post.1).isSome = _
      rw [AList.lookup_insert_ne hne]
    | @execute t txn htxn happlies =>
      refine settles_same hs rfl rfl fun post hpost => ?_
      show ((s.txns.insert t _).lookup post.1).isSome = _
      rcases eq_or_ne post.1 t with heq | hne
      · rw [heq, AList.lookup_insert, htxn]
        rfl
      · rw [AList.lookup_insert_ne hne]
    | @reject t txn htxn hcreate hservers =>
      refine settles_rollback hs htxn (hok.2.1 t ?_) d
      obtain ⟨name, options, hchange⟩ := hcreate
      show (s.txns.lookup t).bind _ = some t
      rw [htxn]
      exact if_pos ⟨by rw [hchange]; rfl, hservers⟩
    | commit htxn hexecuted happlies => exact settles_commit hs htxn (hok.1 _ rfl) d
    | rollback htxn => exact settles_rollback hs htxn (hok.2.1 _ rfl) d
    | @created d' =>
      refine settles_same hs rfl ?_ fun _ _ => rfl
      show (Function.update s.catalog d' _ d).servers = _
      rcases eq_or_ne d d' with rfl | hne
      · rw [Function.update_self]
      · rw [Function.update_of_ne hne]
    | @dropped d' table hnone =>
      rcases eq_or_ne d d' with rfl | hne
      · -- The database has no server any more.
        have hservers : (Function.update s.catalog d
            { installed := false, servers := [], table } d).servers = [] := by
          rw [Function.update_self]
        constructor
        · rintro (⟨post, hpost, hsome⟩ | hne)
          · refine ⟨Or.inl ⟨post, hpost, hsome⟩, lastConfig_congr hlast fun hnone' => ?_⟩
            exact absurd (hnone'.symm.trans hpost) (by simp)
          · exact absurd hservers hne
        · exact fun _ hne => absurd hservers hne
      · refine settles_same hs rfl ?_ fun _ _ => rfl
        show (Function.update s.catalog d' _ d).servers = _
        rw [Function.update_of_ne hne]
  · exact settles_same hs hlast (hcatalog d).1 fun post _ => by rw [htxns]

/-! ## The configurations on their way -/

/-- A report carries no configuration. -/
theorem configFor?_of_isReport {msg : LauncherMessage} (h : msg.IsReport) (d : Oid) :
    msg.configFor? d = none := by
  cases msg with
  | newConfig d' config => exact h.elim
  | _ => rfl

/-- A message that carries a configuration for a database is about it, and the configuration is what
is forwarded. -/
theorem configFor?_eq_some {msg : LauncherMessage} {d : Oid} {config : Config}
    (h : msg.configFor? d = some config) : msg = .newConfig d config := by
  cases msg with
  | newConfig d' config' =>
    unfold LauncherMessage.configFor? at h
    dsimp only at h
    split_ifs at h with hd
    rw [hd, Option.some.inj h]
  | _ => exact absurd h (by simp [LauncherMessage.configFor?])

/-- A step that posts nothing about a database adds no configuration of it to the bus, and only the
launcher takes one off. -/
theorem busConfigs_of_step (h : Transition s e s') {d : Oid} (hno : ∀ config, ¬ Posts e d config) :
    (∃ started item, e = .recv started ∧ s.bus = item :: s'.bus ∧
      busConfigs s.bus d = (item.msg.configFor? d).toList ++ busConfigs s'.bus d) ∨
    ((∀ started, e ≠ .recv started) ∧ busConfigs s'.bus d = busConfigs s.bus d) := by
  have hquiet : ∀ news : List Item, (∀ item ∈ news, item.msg.configFor? d = none) →
      busConfigs (s.bus ++ news) d = busConfigs s.bus d := by
    intro news hnews
    unfold busConfigs
    rw [List.filterMap_append, List.filterMap_eq_nil_iff.mpr hnews, List.append_nil]
  cases h with
  | @recv item rest started ctx effect hlauncher hbus hhandling =>
    refine Or.inl ⟨started, item, rfl, hbus, ?_⟩
    rw [hbus]
    show List.filterMap _ (item :: rest) = _
    rw [List.filterMap_cons]
    cases item.msg.configFor? d <;> rfl
  | @proc g pe p r hproc hlock hstep =>
    refine Or.inr ⟨by simp, hquiet _ fun item hmem => ?_⟩
    obtain ⟨msg, hmsg, rfl⟩ := List.mem_map.mp hmem
    exact configFor?_of_isReport (posted_report hstep (Option.mem_toList.mp hmsg)).1 d
  | backend hstep =>
    right
    refine ⟨?_, ?_⟩
    · rintro started rfl
      cases hstep
    · cases hstep with
      | @request subscribe d' subject fn_name hlock =>
        refine hquiet [_] fun item hmem => ?_
        rw [List.mem_singleton.mp hmem]
        cases subscribe <;> rfl
      | @ddl d' change hlock hinstalled happlies =>
        refine hquiet _ fun item hmem => ?_
        obtain ⟨config, hconfig, rfl⟩ := List.mem_map.mp hmem
        refine if_neg ?_
        rintro rfl
        exact hno config ⟨change, rfl, Option.mem_toList.mp hconfig⟩
      | _ => rfl
  | _ => exact Or.inr ⟨by simp, rfl⟩

/-- A launcher that begins to send a configuration sends that of the message which it handles, to
the registered worker of its database. -/
theorem sending?_of_handling {started : Option String} {msg : LauncherMessage}
    {ctx : LauncherContext} {effect : Option Effect} {g : ℕ} {config : Config}
    (hlauncher : s.launcher = .draining) (h : Handling s.ctx started msg ctx effect)
    (hsending : sending? (s.perform effect).launcher g = some config) :
    ∃ entry, s.ctx.workers.lookup msg.dbOid = some entry ∧ entry.worker = g ∧
      msg.configFor? msg.dbOid = some config := by
  cases h with
  | @forward _ m entry hmsg hworkers =>
    have hif : (if entry.worker = g then m.config? else none) = some config := hsending
    split_ifs at hif with hg
    refine ⟨entry, hworkers, hg, ?_⟩
    cases msg with
    | newConfig d config' =>
      obtain rfl := Option.some.inj hmsg
      obtain rfl := Option.some.inj hif
      exact if_pos rfl
    | subscribe d subject fn_name =>
      obtain rfl := Option.some.inj hmsg
      exact absurd hif (by simp [SubscriberMessage.config?])
    | unsubscribe d subject fn_name =>
      obtain rfl := Option.some.inj hmsg
      exact absurd hif (by simp [SubscriberMessage.config?])
    | _ => exact absurd hmsg (by simp [LauncherMessage.forward?])
  | _ => exact absurd hsending (by simp [perform, hlauncher, sending?])

/-- What the move of a process is to its queue and its configuration. It reads its configuration, or
takes the oldest message off its queue, or leaves, or keeps both. -/
theorem config_of_move {p : Proc} {catalog : Catalog} {pe : ProcEvent} {r : ProcStep}
    (h : ProcTransition p catalog pe r)
    (hconnects : ∀ connected, pe = .loop (.sharedRecv connected) → connected = true) :
    (pe = .fetch ∧ p.pc.queue = [] ∧ r.pc.queue = [] ∧
      r.pc.config? = some (fetchConfig catalog.servers)) ∨
    (∃ msg, p.pc.queue = msg :: r.pc.queue ∧
      r.pc.config? = msg.config?.or p.pc.config?) ∨
    (r.pc.queue = [] ∧ r.pc.config? = none) ∨
    (r.pc.queue = p.pc.queue ∧ r.pc.config? = p.pc.config?) := by
  cases h with
  | fetch hpc => exact Or.inl ⟨rfl, by rw [hpc]; rfl, rfl, rfl⟩
  | connect hpc => rw [hpc]; exact Or.inr (Or.inr (Or.inr ⟨rfl, rfl⟩))
  | @attach config env hpc =>
    obtain ⟨hrecv, hconfig⟩ := Subscriber.start_frame catalog.table [] config env
    right; right; right
    rw [hpc]
    exact ⟨hrecv, congrArg some hconfig⟩
  | @loop sub sub' e hpc henabled hstep =>
    rw [hpc]
    right
    have hdeliver : ∀ msg, e ≠ .deliver msg := by
      rintro msg rfl
      exact absurd henabled Bool.false_ne_true
    have hrestart : ∀ config env, e ≠ .restart config env := by
      rintro config env rfl
      exact absurd henabled Bool.false_ne_true
    rcases Subscriber.config_of_step (Subscriber.transition_of_step hstep) hdeliver hrestart with
      ⟨hrecv, hconfig⟩ | ⟨connected, msg, rfl, hrecv, hconfig⟩
    · exact Or.inr (Or.inr ⟨hrecv, congrArg some hconfig⟩)
    · left
      refine ⟨msg, hrecv, ?_⟩
      show some sub'.ctx.config = _
      rw [hconfig (hconnects connected rfl)]
      cases msg <;> rfl
  | _ => exact Or.inr (Or.inr (Or.inl ⟨rfl, rfl⟩))

/-- Only a worker to which the launcher is sending has a configuration in a send to it. -/
theorem sending?_eq_none {g : ℕ} (h : ¬ s.SendsTo g) : sending? s.launcher g = none := by
  unfold sending?
  split
  · next worker msg hlauncher =>
    refine if_neg ?_
    rintro rfl
    exact h (sendsTo_iff.mpr ⟨msg, hlauncher⟩)
  · rfl

/-- What a step does to the configurations on their way to the worker of an entry: it may take some
from the front, and a worker to which none is left has the last configuration. -/
structure WayStep (s s' : System) (d : Oid) (g : ℕ) (pc pc' : Pc) : Prop where
  /-- What is left is the end of what there was. -/
  suffix : s'.wayTo d g pc' <:+ s.wayTo d g pc
  /-- When nothing is left, the worker has the last configuration. -/
  current : s'.wayTo d g pc' = [] → s.Expects d → ∀ config, pc'.config? = some config →
    config = s.lastConfig d

/-- A step that changes neither what is on its way nor the configuration of the worker. -/
theorem wayStep_same (hs : s.Configured) {d : Oid} {entry : WorkerEntry} {p : Proc} {pc' : Pc}
    (hhas : s.ctx.Has d entry) (hproc : s.procs[entry.worker]? = some p)
    (hway : s'.wayTo d entry.worker pc' = s.wayTo d entry.worker p.pc)
    (hconfig : pc'.config? = p.pc.config?) : WayStep s s' d entry.worker p.pc pc' where
  suffix := hway ▸ List.suffix_rfl
  current hnil hexpects config hpc' :=
    hs.current d entry p hhas hproc (hway ▸ hnil) hexpects config (hconfig ▸ hpc')

/-- The committed configuration, which a worker reads when none is on its way to it, is the last
one. -/
theorem fetchConfig_eq_lastConfig (hwf : s.WellFormed) (hs : s.Configured) {d : Oid}
    {entry : WorkerEntry} {p : Proc} (hok : s.FetchSafe entry.worker) (hhas : s.ctx.Has d entry)
    (hproc : s.procs[entry.worker]? = some p) (hnil : s.wayTo d entry.worker p.pc = [])
    (hexpects : s.Expects d) : fetchConfig (s.catalog p.db).servers = s.lastConfig d := by
  have hdb : p.db = d := hwf.db_eq hhas hproc
  -- While the poster is open this is the condition on the read, and afterwards the invariant.
  by_cases hopen : s.PosterOpen d
  · obtain ⟨hfront, hnobus⟩ := List.append_eq_nil_iff.mp hnil
    obtain ⟨-, hnosend⟩ := List.append_eq_nil_iff.mp hfront
    have hentry : (s.ctx.entry? p.db).map WorkerEntry.worker = some entry.worker := by
      rw [hdb, hwf.entry?_eq hhas]
      rfl
    rw [← hdb]
    exact hok p hproc hentry (hdb ▸ hopen) (hdb ▸ hnobus) (Option.toList_eq_nil_iff.mp hnosend)
  · rw [hdb]
    exact hs.committed d hopen (hexpects.resolve_left hopen)

/-- The worker of an entry takes a step. -/
theorem wayStep_move (hwf : s.WellFormed) (hs : s.Configured) {d : Oid} {entry : WorkerEntry}
    {p : Proc} {pe : ProcEvent} {r : ProcStep} (hok : s.ConfigSafe (.proc entry.worker pe))
    (hconnects : s.Connects (.proc entry.worker pe)) (hhas : s.ctx.Has d entry)
    (hproc : s.procs[entry.worker]? = some p) (hstep : ProcTransition p (s.catalog p.db) pe r)
    (hlauncher : s'.launcher = s.launcher) (hbus : busConfigs s'.bus d = busConfigs s.bus d) :
    WayStep s s' d entry.worker p.pc r.pc := by
  have hconnected : ∀ connected, pe = .loop (.sharedRecv connected) → connected = true := by
    rintro connected rfl
    simpa [Connects, Event.disconnects] using hconnects
  have hway' : ∀ pc', s'.wayTo d entry.worker pc' = s.wayTo d entry.worker pc' := by
    intro pc'
    unfold wayTo
    rw [hlauncher, hbus]
  rcases config_of_move hstep hconnected with
    ⟨rfl, hqueue, hqueue', hconfig⟩ | ⟨msg, hqueue, hconfig⟩ | ⟨hqueue, hconfig⟩ | ⟨hqueue, hconfig⟩
  · -- It reads the committed configuration.
    have hsame : s'.wayTo d entry.worker r.pc = s.wayTo d entry.worker p.pc := by
      rw [hway']
      unfold wayTo
      rw [hqueue, hqueue']
    refine ⟨hsame ▸ List.suffix_rfl, fun hnil hexpects config hr => ?_⟩
    obtain rfl := Option.some.inj (hconfig.symm.trans hr)
    exact fetchConfig_eq_lastConfig hwf hs (hok.2.2.1 _ rfl) hhas hproc (hsame ▸ hnil) hexpects
  · -- It takes the oldest message off its queue.
    have hcons : s.wayTo d entry.worker p.pc =
        msg.config?.toList ++ s'.wayTo d entry.worker r.pc := by
      rw [hway']
      unfold wayTo
      rw [hqueue, List.filterMap_cons]
      cases msg.config? <;> simp
    refine ⟨hcons ▸ List.suffix_append _ _, fun hnil hexpects config hr => ?_⟩
    rw [hconfig] at hr
    cases hmsg : msg.config? with
    | none =>
      rw [hmsg] at hr hcons
      rw [hnil] at hcons
      exact hs.current d entry p hhas hproc hcons hexpects config hr
    -- The configuration taken was the last on its way, which is the one posted last.
    | some config' =>
      rw [hmsg] at hr hcons
      obtain rfl := Option.some.inj hr
      rw [hnil] at hcons
      have hlast := hs.way d entry p hhas hproc config' (by rw [hcons]; rfl)
      exact (lastConfig_of_lastPosted hlast).symm
  · -- It leaves.
    constructor
    · rw [hway']
      unfold wayTo
      rw [hqueue, List.filterMap_nil, List.nil_append, List.append_assoc]
      exact List.suffix_append _ _
    · intro _ _ config hr
      exact absurd (hconfig.symm.trans hr) (by simp)
  · refine wayStep_same hs hhas hproc ?_ hconfig
    rw [hway']
    unfold wayTo
    rw [hqueue]

/-- The launcher handles a message. -/
theorem wayStep_recv (hwf : s.WellFormed) (hs : s.Configured) {d : Oid} {entry : WorkerEntry}
    {p : Proc} {started : Option String} {item : Item} {effect : Option Effect} (hok : s.DropSafe)
    (hlauncher : s.launcher = .draining) (hbus : s.bus = item :: s'.bus)
    (hhandling : Handling s.ctx started item.msg s'.ctx effect)
    (hlauncher' : s'.launcher = (s.perform effect).launcher)
    (hconfigs : busConfigs s.bus d = (item.msg.configFor? d).toList ++ busConfigs s'.bus d)
    (hhas : s.ctx.Has d entry) (hproc : s.procs[entry.worker]? = some p) :
    WayStep s s' d entry.worker p.pc p.pc := by
  have hidle : sending? s.launcher entry.worker = none := by rw [hlauncher]; rfl
  have hway : s.wayTo d entry.worker p.pc = p.pc.queue.filterMap SubscriberMessage.config? ++
      ((item.msg.configFor? d).toList ++ busConfigs s'.bus d) := by
    unfold wayTo
    rw [hidle, hconfigs, Option.toList_none, List.append_nil]
  have hway' : s'.wayTo d entry.worker p.pc = p.pc.queue.filterMap SubscriberMessage.config? ++
      (sending? (s.perform effect).launcher entry.worker).toList ++ busConfigs s'.bus d := by
    unfold wayTo
    rw [hlauncher']
  cases hsending : sending? (s.perform effect).launcher entry.worker with
  | some config =>
    -- The launcher forwards a configuration to the worker, which is on its way as before.
    obtain ⟨entry', hworkers, hworker, hmsg⟩ := sending?_of_handling hlauncher hhandling hsending
    have hd : item.msg.dbOid = d := hwf.worker_inj (Or.inr hworkers) hhas hworker
    refine wayStep_same hs hhas hproc ?_ rfl
    rw [hway, hway', hsending, ← hd, hmsg, List.append_assoc]
  | none =>
    rw [hsending, Option.toList_none, List.append_nil] at hway'
    cases hmsg : item.msg.configFor? d with
    | none =>
      refine wayStep_same hs hhas hproc ?_ rfl
      rw [hway, hway', hmsg, Option.toList_none, List.nil_append]
    | some config =>
      -- The worker is pending, and the configuration is dropped.
      obtain hnewConfig := configFor?_eq_some hmsg
      have hdb : item.msg.dbOid = d := by rw [hnewConfig]; rfl
      have hpending : s.ctx.pending_workers.lookup d = some entry := by
        rcases hhas with hpending | hworkers
        · exact hpending
        · obtain ⟨-, rfl⟩ := hhandling.of_registered (by rw [hnewConfig]; rfl) (hdb ▸ hworkers)
          exact absurd hsending (by simp [perform, sending?, SubscriberMessage.config?])
      have hqueue := hs.pending d entry p hpending hproc
      rw [hqueue, List.filterMap_nil, List.nil_append] at hway hway'
      rw [hmsg] at hway
      refine ⟨hway ▸ hway' ▸ List.suffix_append _ _, fun hnil hexpects config' hpc => ?_⟩
      rw [hway'] at hnil
      have hsame : config' = config := by
        refine hok item (by rw [hbus]; rfl) config (hdb.symm ▸ hmsg) ?_ (hdb.symm ▸ hexpects) entry
          (hdb.symm ▸ hpending) p hproc config' hpc
        rw [hbus, hdb]
        exact hnil
      rw [hsame]
      refine (lastConfig_of_lastPosted (hs.bus d config ?_)).symm
      rw [hconfigs, hmsg, hnil]
      rfl

/-- A worker to which a send has failed has nothing in its queue and no configuration. -/
theorem detached_of_send_ends (h : Transition s e s') {g : ℕ} {p : Proc} (hsends : s.SendsTo g)
    (hends : ¬ s'.SendsTo g) (hproc : s.procs[g]? = some p)
    (hother : e = .sent → ∀ msg, s.launcher ≠ .sending g msg) :
    p.pc.queue = [] ∧ p.pc.config? = none := by
  obtain ⟨q, hq, hcause⟩ := send_ends h hsends hends
  obtain rfl := Option.some.inj (hproc.symm.trans hq)
  rcases hcause with ⟨he, -⟩ | ⟨reason, hpc⟩ | hpc
  · obtain ⟨msg, hlauncher⟩ := sendsTo_iff.mp hsends
    exact absurd hlauncher (hother he msg)
  · rw [hpc]
    exact ⟨rfl, rfl⟩
  · rw [hpc]
    exact ⟨rfl, rfl⟩

/-- A step that posts nothing about the database of an entry. -/
theorem wayStep_of_step (hwf : s.WellFormed) (hs : s.Configured) (hok : s.ConfigSafe e)
    (hconnects : s.Connects e) (h : Transition s e s') {d : Oid} {entry : WorkerEntry} {p p' : Proc}
    (hno : ∀ config, ¬ Posts e d config) (hhas : s.ctx.Has d entry)
    (hproc : s.procs[entry.worker]? = some p) (hchange : ProcChange s e s' entry.worker p p') :
    WayStep s s' d entry.worker p.pc p'.pc := by
  have hbus := busConfigs_of_step h hno
  cases hchange with
  | @moved pe r he hlock hstep hs' =>
    obtain rfl := he
    obtain ⟨-, hbus⟩ := hbus.resolve_left (by simp)
    exact wayStep_move hwf hs hok hconnects hhas hproc hstep (by rw [hs']; rfl) hbus
  | @received msg sub he hlauncher hlauncher' hpc =>
    obtain ⟨-, hbus⟩ := hbus.resolve_left (by simp [he])
    refine wayStep_same hs hhas hproc ?_ (by rw [hpc]; rfl)
    unfold wayTo
    -- The configuration moves from the send to the end of the queue, and the way is the same.
    rw [hbus, hlauncher, hlauncher', hpc]
    have hself : sending? (.sending entry.worker msg) entry.worker = msg.config? := if_pos rfl
    rw [hself]
    show (sub.recv ++ [msg]).filterMap _ ++ [] ++ _ = sub.recv.filterMap _ ++ _ ++ _
    rw [List.filterMap_append, List.append_nil]
    cases hmsg : msg.config? <;> simp [hmsg]
  | same terminating hterminating hother =>
    rcases hbus with ⟨started, item, rfl, hbus, hconfigs⟩ | ⟨hnot, hbus⟩
    · rcases bus_of_step h with ⟨started', item', effect, -, hlauncher, hbus', -, -, hhandling,
          hlauncher'⟩ | ⟨-, -, -, -, hnot⟩
      · obtain ⟨rfl, -⟩ := List.cons.inj (hbus.symm.trans hbus')
        exact wayStep_recv hwf hs (hok.2.2.2 rfl) hlauncher hbus hhandling hlauncher' hconfigs hhas
          hproc
      · exact absurd rfl (hnot started)
    · by_cases hsame : sending? s'.launcher entry.worker = sending? s.launcher entry.worker
      · refine wayStep_same hs hhas hproc ?_ rfl
        unfold wayTo
        rw [hsame, hbus]
      · -- A send to the worker has failed, because it has detached.
        have hends : ¬ s'.SendsTo entry.worker := by
          intro hsends
          rcases sendsTo_of_step h hsends with ⟨-, hlauncher, -⟩ | ⟨started, -, he, -⟩
          · exact hsame (by rw [hlauncher])
          · exact hnot started he
        have hsends : s.SendsTo entry.worker := by
          by_contra hnone
          exact hsame ((sending?_eq_none hends).trans (sending?_eq_none hnone).symm)
        have hdetached := detached_of_send_ends h hsends hends hproc hother
        constructor
        · show s'.wayTo d entry.worker p.pc <:+ _
          unfold wayTo
          rw [sending?_eq_none hends, hdetached.1, hbus]
          exact List.suffix_append_of_suffix (List.suffix_rfl)
        · intro _ _ config hpc
          exact absurd (hdetached.2.symm.trans hpc) (by simp)

/-! ## The invariant along a run -/

/-- The number of the next transaction does not go down. -/
theorem next_txn_le (h : Transition s e s') : s.next_txn ≤ s'.next_txn := by
  rcases catalog_of_step h with hbackend | ⟨-, -, hnext, -⟩
  · cases hbackend with
    | ddl hlock hinstalled happlies => exact Nat.le_succ _
    | _ => exact le_rfl
  · exact Nat.le_of_eq hnext.symm

/-- An open transaction was open before the step, or it begins in it. -/
theorem txn_of_step (h : Transition s e s') {t : ℕ} {txn' : Txn}
    (htxn' : s'.txns.lookup t = some txn') :
    (∃ txn, s.txns.lookup t = some txn ∧ txn.db = txn'.db) ∨
      (t = s.next_txn ∧ s'.next_txn = s.next_txn + 1 ∧ ∃ change, e = .ddl txn'.db change) := by
  have herase : ∀ t', (s.txns.erase t').lookup t = some txn' →
      ∃ txn, s.txns.lookup t = some txn ∧ txn.db = txn'.db := by
    intro t' hlookup
    exact ⟨txn', (HashMap.lookup_erase_eq_some hlookup).2, rfl⟩
  rcases catalog_of_step h with hbackend | ⟨-, htxns, -⟩
  · cases hbackend with
    | @ddl d change hlock hinstalled happlies =>
      rcases HashMap.lookup_insert_eq_some htxn' with ⟨rfl, rfl⟩ | hold
      · exact Or.inr ⟨rfl, rfl, change, rfl⟩
      · exact Or.inl ⟨txn', hold, rfl⟩
    | @execute t' txn htxn happlies =>
      left
      rcases HashMap.lookup_insert_eq_some htxn' with ⟨rfl, rfl⟩ | hold
      · exact ⟨txn, htxn, rfl⟩
      · exact ⟨txn', hold, rfl⟩
    | reject htxn hcreate hservers => exact Or.inl (herase _ htxn')
    | commit htxn hexecuted happlies => exact Or.inl (herase _ htxn')
    | rollback htxn => exact Or.inl (herase _ htxn')
    | _ => exact Or.inl ⟨txn', htxn', rfl⟩
  · rw [htxns] at htxn'
    exact Or.inl ⟨txn', htxn', rfl⟩

/-- A post was there before the step, or it is that of the transaction that begins in it. -/
theorem post_of_step (h : Transition s e s') {post : ℕ × Oid × Config} (hmem : post ∈ s'.posted) :
    post ∈ s.posted ∨
      (post.1 = s.next_txn ∧ s'.next_txn = s.next_txn + 1 ∧
        ∃ change, e = .ddl post.2.1 change) := by
  rcases catalog_of_step h with hbackend | ⟨-, -, -, hposted⟩
  · cases hbackend with
    | @ddl d change hlock hinstalled happlies =>
      rcases List.mem_append.mp hmem with hmem | hmem
      · obtain ⟨config, -, rfl⟩ := List.mem_map.mp hmem
        exact Or.inr ⟨rfl, rfl, change, rfl⟩
      · exact Or.inl hmem
    | _ => exact Or.inl hmem
  · rw [hposted] at hmem
    exact Or.inl hmem

/-- A transaction posts about its own database, after any step. -/
theorem posters_step (hs : s.Configured) (h : Transition s e s') {post : ℕ × Oid × Config}
    (hmem : post ∈ s'.posted) {txn' : Txn} (htxn' : s'.txns.lookup post.1 = some txn') :
    txn'.db = post.2.1 := by
  rcases post_of_step h hmem with hmem | ⟨hnext, -, change, he⟩
  · rcases txn_of_step h htxn' with ⟨txn, htxn, hdb⟩ | ⟨hnext, -⟩
    · exact hdb ▸ hs.posters post hmem txn htxn
    · exact absurd hnext (Nat.ne_of_lt (hs.posted post hmem))
  · rcases txn_of_step h htxn' with ⟨txn, htxn, -⟩ | ⟨-, -, change', he'⟩
    · exact absurd hnext (Nat.ne_of_lt (hs.txns _ txn htxn))
    · rw [he] at he'
      exact (Event.ddl.inj he').1.symm

/-- The step that posts about a database makes its configuration the last one, on the bus and of the
posts. -/
theorem posts_step (h : Transition s e s') {d : Oid} {config : Config} (hposts : Posts e d config) :
    busConfigs s'.bus d = busConfigs s.bus d ++ [config] ∧ s'.launcher = s.launcher ∧
      s'.ctx = s.ctx ∧ s'.procs = s.procs ∧ s'.lastPosted d = some (s.next_txn, config) ∧
      s'.PosterOpen d := by
  obtain ⟨change, rfl, hconfig⟩ := hposts
  cases h with
  | backend hstep =>
    cases hstep with
    | ddl hlock hinstalled happlies =>
      have hlast : (s.begin d change).lastPosted d = some (s.next_txn, config) := by
        unfold lastPosted
        show ((change.config?.toList.map (fun config => (s.next_txn, d, config)) ++
          s.posted).find? _).map _ = _
        rw [hconfig, Option.toList_some, List.map_cons, List.map_nil, List.singleton_append,
          List.find?_cons_of_pos (by simp)]
        rfl
      refine ⟨?_, rfl, rfl, rfl, hlast, (s.next_txn, config), hlast, ?_⟩
      · show busConfigs (s.bus ++ change.config?.toList.map _) d = _
        unfold busConfigs
        rw [hconfig, List.filterMap_append]
        congr 1
        show List.filterMap _ [_] = _
        rw [List.filterMap_cons, List.filterMap_nil]
        have hself : (LauncherMessage.newConfig d config).configFor? d = some config := if_pos rfl
        rw [hself]
      · show ((s.txns.insert s.next_txn _).lookup s.next_txn).isSome = true
        rw [AList.lookup_insert]
        rfl

/-- The last of what is left at the end of a list is the last of the list. -/
theorem getLast?_of_suffix {α : Type} {l l' : List α} {a : α} (hsuffix : l' <:+ l)
    (h : l'.getLast? = some a) : l.getLast? = some a := by
  obtain ⟨front, rfl⟩ := hsuffix
  rw [List.getLast?_append, h]
  rfl

/-- The queue of a pending worker is empty, after any step. -/
theorem pendingQueue_step (hwf : s.WellFormed) (hs : s.Configured) (hconnects : s.Connects e)
    (h : Transition s e s') {d : Oid} {entry : WorkerEntry} {p' : Proc}
    (hpending' : s'.ctx.pending_workers.lookup d = some entry)
    (hproc' : s'.procs[entry.worker]? = some p') : p'.pc.queue = [] := by
  rcases pending_before hwf h hpending' hproc' with ⟨hpending, p, hproc, hchange⟩ | rfl
  · have hqueue := hs.pending d entry p hpending hproc
    cases hchange with
    | same terminating hterminating hother => exact hqueue
    | received he hlauncher hlauncher' hpc =>
      -- The launcher sends to registered workers only.
      obtain ⟨d', entry', hworkers, hworker⟩ := hwf.sending _ _ hlauncher
      obtain rfl : d' = d := hwf.worker_inj (Or.inr hworkers) (Or.inl hpending) hworker
      rw [hwf.disjoint d' entry hpending] at hworkers
      exact absurd hworkers (by simp)
    | @moved pe r he hlock hstep hs' =>
      have hconnected : ∀ connected, pe = .loop (.sharedRecv connected) → connected = true := by
        rintro connected rfl
        simpa [he, Connects, Event.disconnects] using hconnects
      rcases config_of_move hstep hconnected with
        ⟨-, -, hqueue', -⟩ | ⟨msg, hcons, -⟩ | ⟨hqueue', -⟩ | ⟨hqueue', -⟩
      · exact hqueue'
      · exact absurd (hqueue.symm.trans hcons) (by simp)
      · exact hqueue'
      · exact hqueue'.trans hqueue
  · rfl

/-- The last configuration on the bus is the one posted last, after any step. -/
theorem bus_step (hs : s.Configured) (h : Transition s e s') {d : Oid} {config : Config}
    (hconfig : (busConfigs s'.bus d).getLast? = some config) :
    (s'.lastPosted d).map Prod.snd = some config := by
  by_cases hposts : ∃ config, Posts e d config
  · obtain ⟨config', hposts⟩ := hposts
    obtain ⟨hbus, -, -, -, hlast, -⟩ := posts_step h hposts
    rw [hbus, List.getLast?_concat] at hconfig
    rw [hlast, ← Option.some.inj hconfig]
    rfl
  · have hno : ∀ config, ¬ Posts e d config := fun config hpost => hposts ⟨config, hpost⟩
    rw [lastPosted_of_step h hno]
    refine hs.bus d config (getLast?_of_suffix ?_ hconfig)
    rcases busConfigs_of_step h hno with ⟨started, item, -, -, hbus⟩ | ⟨-, hbus⟩
    · rw [hbus]
      exact List.suffix_append _ _
    · exact hbus ▸ List.suffix_rfl

/-- A worker that a step starts has only the bus before it. -/
theorem wayTo_new {d d' : Oid} {db_name : String} (hstart : Starts s e s' d' db_name) (g : ℕ) :
    s'.wayTo d g (fresh d').pc = busConfigs s'.bus d := by
  have hsending : sending? s'.launcher g = none := by
    rcases hstart.cause with ⟨-, -, oids, -, hlauncher⟩ | ⟨-, -, hlauncher, -⟩
    · rw [hlauncher]
      rfl
    · rw [hlauncher]
      rfl
  unfold wayTo
  rw [hsending]
  rfl

/-- The last configuration on its way to the worker of an entry is the one posted last, and a worker
to which none is on its way has it, after any step. -/
theorem way_step (hwf : s.WellFormed) (hs : s.Configured) (hok : s.ConfigSafe e)
    (hconnects : s.Connects e) (h : Transition s e s') {d : Oid} {entry : WorkerEntry} {p' : Proc}
    (hhas' : s'.ctx.Has d entry) (hproc' : s'.procs[entry.worker]? = some p') :
    (∀ config, (s'.wayTo d entry.worker p'.pc).getLast? = some config →
      (s'.lastPosted d).map Prod.snd = some config) ∧
    (s'.wayTo d entry.worker p'.pc = [] → s'.Expects d → ∀ config, p'.pc.config? = some config →
      config = s'.lastConfig d) := by
  by_cases hposts : ∃ config, Posts e d config
  · obtain ⟨config', hposts⟩ := hposts
    obtain ⟨hbus, -, -, -, hlast, -⟩ := posts_step h hposts
    -- The new configuration goes to the end of the bus, so every worker has it last on its way.
    have hway : ∃ front, s'.wayTo d entry.worker p'.pc = front ++ [config'] := by
      unfold wayTo
      rw [hbus, ← List.append_assoc]
      exact ⟨_, rfl⟩
    obtain ⟨front, hway⟩ := hway
    rw [hway, List.getLast?_concat, hlast]
    refine ⟨fun config hconfig => by rw [← Option.some.inj hconfig]; rfl, fun hnil => ?_⟩
    exact absurd hnil (by simp)
  · have hno : ∀ config, ¬ Posts e d config := fun config hpost => hposts ⟨config, hpost⟩
    rcases entry_before hwf h hhas' hproc' with ⟨hhas, p, hproc, hchange⟩ |
        ⟨db_name, hstart, -, rfl⟩
    · have hway := wayStep_of_step hwf hs hok hconnects h hno hhas hproc hchange
      constructor
      · intro config hconfig
        rw [lastPosted_of_step h hno]
        exact hs.way d entry p hhas hproc config (getLast?_of_suffix hway.suffix hconfig)
      · intro hnil hexpects' config hconfig
        obtain ⟨hexpects, hlast⟩ := (settles_of_step hs hok h hno).expects hexpects'
        rw [hlast]
        exact hway.current hnil hexpects config hconfig
    -- A new worker has read no configuration, and the bus alone is before it.
    · constructor
      · intro config hlast
        rw [wayTo_new hstart] at hlast
        exact bus_step hs h hlast
      · intro _ _ config hpc
        exact absurd hpc (by simp [fresh, Pc.config?])

/-- A step that meets the assumption and the condition keeps the invariant. -/
theorem Configured.step (hwf : s.WellFormed) (hs : s.Configured) (hok : s.ConfigSafe e)
    (hconnects : s.Connects e) (h : Transition s e s') : s'.Configured where
  txns t txn' htxn' := by
    rcases txn_of_step h htxn' with ⟨txn, htxn, -⟩ | ⟨rfl, hnext, -⟩
    · exact Nat.lt_of_lt_of_le (hs.txns t txn htxn) (next_txn_le h)
    · rw [hnext]
      exact Nat.lt_succ_self _
  posted post hmem := by
    rcases post_of_step h hmem with hmem | ⟨heq, hnext, -⟩
    · exact Nat.lt_of_lt_of_le (hs.posted post hmem) (next_txn_le h)
    · rw [heq, hnext]
      exact Nat.lt_succ_self _
  posters _ hmem _ htxn := posters_step hs h hmem htxn
  bus _ _ hconfig := bus_step hs h hconfig
  pending _ _ _ hpending hproc := pendingQueue_step hwf hs hconnects h hpending hproc
  way _ _ _ hhas hproc := (way_step hwf hs hok hconnects h hhas hproc).1
  current _ _ _ hhas hproc := (way_step hwf hs hok hconnects h hhas hproc).2
  committed d hnotOpen hservers := by
    by_cases hposts : ∃ config, Posts e d config
    · obtain ⟨config, hposts⟩ := hposts
      obtain ⟨-, -, -, -, -, hopen⟩ := posts_step h hposts
      exact absurd hopen hnotOpen
    · have hno : ∀ config, ¬ Posts e d config := fun config hpost => hposts ⟨config, hpost⟩
      exact (settles_of_step hs hok h hno).committed hnotOpen hservers

/-- The invariant holds when the launcher starts. -/
theorem configured_init (oids : List Oid) (catalog : Oid → Catalog) :
    (init oids catalog).Configured where
  txns t txn htxn := absurd htxn (by simp [init])
  posted post hmem := absurd hmem (by simp [init])
  posters post hmem := absurd hmem (by simp [init])
  bus d config hconfig := absurd hconfig (by simp [init, busConfigs])
  pending d entry p hpending := absurd hpending (by simp [init, LauncherContext.default])
  way d entry p hhas hproc := absurd hproc (by simp [init])
  current d entry p hhas hproc := absurd hproc (by simp [init])
  committed d hnotOpen hservers := rfl

/-- In every run that meets the assumption and the condition: a registered worker in its loop, with
nothing in its queue, in a send to it, or on the bus, and no open transaction in its database, uses
the configuration of the committed server. The condition is enough and not exact: a configuration
that is rolled back does no harm once a later one has taken its place. -/
theorem config_of_quiescent {oids : List Oid} (hoids : oids.Nodup) (catalog : Oid → Catalog)
    {es : List Event} (hrun : Run.run step (init oids catalog) es = some s)
    (hconnects : Run.RunAll step Connects (init oids catalog) es)
    (hok : Run.RunAll step ConfigSafe (init oids catalog) es) {d : Oid} {entry : WorkerEntry}
    {p : Proc} {sub : Subscriber} (hworkers : s.ctx.workers.lookup d = some entry)
    (hproc : s.procs[entry.worker]? = some p) (hpc : p.pc = .looping sub) (hbus : s.bus = [])
    (hsends : ¬ s.SendsTo entry.worker) (hqueue : sub.recv = [])
    (htxns : ∀ t txn, s.txns.lookup t = some txn → txn.db ≠ d) {server : Server}
    (hserver : (s.catalog d).servers = [server]) : sub.ctx.config = server.config := by
  have hkeep : ∀ s e s', WellFormed s → Configured s → (Connects s e ∧ ConfigSafe s e) →
      Transition s e s' → Configured s' :=
    fun s e s' hwf hs hstep h => hs.step hwf hstep.2 hstep.1 h
  have hinit := configured_init oids catalog
  obtain ⟨-, hs⟩ := invariant_of_run hkeep hoids hinit (hconnects.and hok) hrun
  -- Nothing is on its way, and no poster is open.
  have hway : s.wayTo d entry.worker p.pc = [] := by
    unfold wayTo
    rw [hpc, hbus, sending?_eq_none hsends]
    show sub.recv.filterMap _ ++ [] ++ [] = []
    rw [hqueue]
    rfl
  have hservers : (s.catalog d).servers ≠ [] := by simp [hserver]
  have hnotOpen : ¬ s.PosterOpen d := by
    rintro ⟨post, hpost, hsome⟩
    obtain ⟨txn, htxn⟩ := Option.isSome_iff_exists.mp hsome
    exact htxns _ txn htxn (hs.posters _ (mem_posted_of_lastPosted hpost) txn htxn)
  calc sub.ctx.config
      = s.lastConfig d := hs.current d entry p (Or.inr hworkers) hproc hway (Or.inr hservers) _
        (by rw [hpc]; rfl)
    _ = fetchConfig (s.catalog d).servers := (hs.committed d hnotOpen hservers).symm
    _ = server.config := by rw [hserver]; rfl

/-- A database whose server is at a host. -/
def servedAt (host : String) : Catalog :=
  { installed := true, servers := [⟨"nats", [("host", host)]⟩], table := ⟨[], []⟩ }

/-- The server is altered and the transaction commits: the worker uses the new host. -/
theorem committed_alter_used :
    ∃ s, Run.run step (init [5] fun _ => servedAt "a")
        [.boot (some "db"), .boot none, .proc 0 .check, .proc 0 (.report true), .proc 0 .fetch,
          .proc 0 .connect, .proc 0 (.attach ⟨.master, true, ⟨none, none, id⟩, true⟩), .wake,
          .recv none, .unlock, .ddl 5 (.alter "nats" [("host", "b")]), .execute 0, .commit 0, .wake,
          .recv none, .sent, .unlock,
          .proc 0 (.loop (.wake .exist ⟨.master, true, ⟨none, none, id⟩, true⟩)),
          .proc 0 (.loop (.sharedRecv true))] = some s ∧
      ∃ p sub, s.procs[0]? = some p ∧ p.pc = .looping sub ∧ sub.ctx.config.nats_opt.host = "b" := by
  obtain ⟨s, sub, hrun, hworkers, hproc, hbus, hlauncher, hqueue, htxns, hserver⟩ : ∃ s sub,
      Run.run step (init [5] fun _ => servedAt "a")
        [.boot (some "db"), .boot none, .proc 0 .check, .proc 0 (.report true), .proc 0 .fetch,
          .proc 0 .connect, .proc 0 (.attach ⟨.master, true, ⟨none, none, id⟩, true⟩), .wake,
          .recv none, .unlock, .ddl 5 (.alter "nats" [("host", "b")]), .execute 0, .commit 0, .wake,
          .recv none, .sent, .unlock,
          .proc 0 (.loop (.wake .exist ⟨.master, true, ⟨none, none, id⟩, true⟩)),
          .proc 0 (.loop (.sharedRecv true))] = some s ∧
      s.ctx.workers.lookup 5 = some ⟨"db", 5, 0⟩ ∧
      s.procs[0]? = some ⟨5, .looping sub, false, [.newConfig (validatorConfig ["host=b"])]⟩ ∧
      s.bus = [] ∧ s.launcher = .idle ∧ sub.recv = [] ∧ s.txns = ∅ ∧
      (s.catalog 5).servers = [⟨"nats", [("host", "b")]⟩] :=
    ⟨_, _, rfl, rfl, rfl, rfl, rfl, rfl, rfl, rfl⟩
  refine ⟨s, hrun, _, sub, hproc, rfl, ?_⟩
  have hsends : ¬ s.SendsTo 0 := by
    unfold SendsTo
    rw [hlauncher]
    exact id
  have hconfig := config_of_quiescent (by decide : ([5] : List Oid).Nodup) (fun _ => servedAt "a")
    hrun (by decide) (by decide) hworkers hproc rfl hbus hsends hqueue (by simp [htxns]) hserver
  rw [hconfig]
  rfl

/-- The server is altered, the launcher forwards the new options to the worker, and the transaction
is rolled back: all is quiet, and the worker uses the host that was never committed. -/
theorem rolled_back_alter_used :
    ∃ s p sub, Run.run step (init [5] fun _ => servedAt "a")
        [.boot (some "db"), .boot none, .proc 0 .check, .proc 0 (.report true), .proc 0 .fetch,
          .proc 0 .connect, .proc 0 (.attach ⟨.master, true, ⟨none, none, id⟩, true⟩), .wake,
          .recv none, .unlock, .ddl 5 (.alter "nats" [("host", "b")]), .wake, .recv none, .sent,
          .unlock, .proc 0 (.loop (.wake .exist ⟨.master, true, ⟨none, none, id⟩, true⟩)),
          .proc 0 (.loop (.sharedRecv true)), .execute 0, .rollback 0] = some s ∧
      s.ctx.workers.lookup 5 = some ⟨"db", 5, 0⟩ ∧ s.procs[0]? = some p ∧ p.pc = .looping sub ∧
      s.bus = [] ∧ s.launcher = .idle ∧ sub.recv = [] ∧ s.txns = ∅ ∧
      (s.catalog 5).servers = [⟨"nats", [("host", "a")]⟩] ∧
      sub.ctx.config.nats_opt.host = "b" ∧
      Server.config ⟨"nats", [("host", "a")]⟩ ≠ sub.ctx.config := by
  refine ⟨_, _, _, rfl, rfl, rfl, rfl, rfl, rfl, rfl, rfl, rfl, rfl, ?_⟩
  intro h
  exact absurd (congrArg (fun config => config.nats_opt.host) h) (by decide)

end System

end PgNats
