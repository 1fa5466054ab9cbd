import PgNats.NatsClient.Basic
import PgNats.Subscriber.Nats

/-!
# The TLS options reach the connection

A backend and a subscriber connect with the same options, but each has its own copy of the routine
that makes connect options of them. The certificate paths are taken relative to the current
directory, and both copies leave out the whole TLS block when there is none: the attempt is then
made without requiring TLS.

`tls_kept_iff` says that this is the only way for the options to get lost. The two copies agree on
every configuration in every environment, and a configuration with a CA is kept by both exactly when
there is a current directory.
-/

namespace PgNats

/-- The attempt that `NatsClient::initialize_connection` makes, from the configuration in use. -/
def NatsClient.initializeAttempt (c : NatsClient) (a : Answers) (env : Environment) : Attempt :=
  let config := c.current_config.getD a.fetched
  let opts := ConnectOptions.new config.nats_opt.capacity
  let opts := match config.nats_opt.tls with
    | some tls => match env.current_dir with
      | some root => match tls with
        | .tls ca => (opts.requireTls true).addRootCertificates (joinPath root ca)
        | .mutualTls ca cert key =>
          ((opts.requireTls true).addRootCertificates (joinPath root ca)).addClientCertificate
            (joinPath root cert) (joinPath root key)
      -- The error is dropped, and TLS with it.
      | none => opts
    | none => opts
  { opts, addr := config.nats_opt.host ++ ":" ++ toString config.nats_opt.port }

/-- The attempt that `NatsConnectionState::connect_nats` makes. -/
def NatsConnectionState.connectAttempt (config : NatsConnectionOptions) (env : Environment) :
    Attempt :=
  let opts := ConnectOptions.new config.capacity
  let opts := match config.tls with
    | some tls => match env.current_dir with
      | some root => match tls with
        | .tls ca => (opts.requireTls true).addRootCertificates (joinPath root ca)
        | .mutualTls ca cert key =>
          ((opts.requireTls true).addRootCertificates (joinPath root ca)).addClientCertificate
            (joinPath root cert) (joinPath root key)
      | none => opts
    | none => opts
  { opts, addr := config.host ++ ":" ++ toString config.port }

/-- The attempt requires TLS with this CA, and presents this certificate, if there is one, with all
paths taken relative to one directory. -/
def Attempt.Secures (attempt : Attempt) (ca : String) (cert : Option (String × String)) : Prop :=
  ∃ root, attempt.opts.require_tls = true ∧
    attempt.opts.root_certificates = [joinPath root ca] ∧
    attempt.opts.client_certificate =
      cert.map fun (cert, key) => (joinPath root cert, joinPath root key)

/-- The client certificate and its key, when both options are set. -/
def clientCertificate (options : Options) : Option (String × String) :=
  match options.lookup "tls_cert_path", options.lookup "tls_key_path" with
  | some cert, some key => some (cert, key)
  | _, _ => none

/-- With a CA among the options, every attempt made from their configuration is secured. -/
def TlsKept (options : Options) (env : Environment) : Prop :=
  ∀ ca, options.lookup "tls_ca_path" = some ca →
    (∀ (c : NatsClient) (a : Answers), c.current_config.getD a.fetched = parseConfig options →
      (c.initializeAttempt a env).Secures ca (clientCertificate options)) ∧
    (NatsConnectionState.connectAttempt (parseConfig options).nats_opt env).Secures ca
      (clientCertificate options)

/-- The two copies of the routine agree. -/
theorem initializeAttempt_eq (c : NatsClient) (a : Answers) (env : Environment) :
    c.initializeAttempt a env =
      NatsConnectionState.connectAttempt (c.current_config.getD a.fetched).nats_opt env := rfl

/-- The connection that a backend opens keeps the options of its attempt. -/
theorem attempt_of_initializeConnection (c : NatsClient) {a : Answers} (ha : a.connected = true)
    (env : Environment) : ∃ client, (c.initializeConnection a).1.connection = some client ∧
      c.initializeAttempt a env = NatsConnectionState.connectAttempt client.opts env := by
  unfold NatsClient.initializeConnection
  rw [if_pos ha]
  exact ⟨_, rfl, rfl⟩

/-- The TLS options of a configuration with a CA. -/
theorem parseConfig_tls {options : Options} {ca : String}
    (hca : options.lookup "tls_ca_path" = some ca) :
    (parseConfig options).nats_opt.tls = some (match clientCertificate options with
      | some (cert, key) => .mutualTls ca cert key
      | none => .tls ca) := by
  unfold parseConfig clientCertificate
  dsimp only
  rw [hca]
  cases options.lookup "tls_cert_path" with
  | none => rfl
  | some cert => cases options.lookup "tls_key_path" <;> rfl

/-- In a current directory the options of a configuration with a CA reach the attempt. -/
theorem secures_of_current_dir {options : Options} {ca root : String} {env : Environment}
    (hca : options.lookup "tls_ca_path" = some ca) (hroot : env.current_dir = some root) :
    (NatsConnectionState.connectAttempt (parseConfig options).nats_opt env).Secures ca
      (clientCertificate options) := by
  have htls := parseConfig_tls hca
  refine ⟨root, ?_⟩
  unfold NatsConnectionState.connectAttempt
  rw [htls, hroot]
  cases clientCertificate options with
  | none => exact ⟨rfl, rfl, rfl⟩
  | some files => exact ⟨rfl, rfl, rfl⟩

/-- Without a current directory no attempt requires TLS. -/
theorem not_secures_of_no_current_dir {config : NatsConnectionOptions} {env : Environment}
    (hroot : env.current_dir = none) (ca : String) (cert : Option (String × String)) :
    ¬ (NatsConnectionState.connectAttempt config env).Secures ca cert := by
  rintro ⟨root, hrequired, -⟩
  have hplain : (NatsConnectionState.connectAttempt config env).opts.require_tls = false := by
    unfold NatsConnectionState.connectAttempt
    rw [hroot]
    cases config.tls <;> rfl
  exact absurd (hplain.symm.trans hrequired) (by simp)

/-- The TLS options of a server reach both connect routines exactly when no CA is set or there is a
current directory. The two routines agree on every configuration. -/
theorem tls_kept_iff (options : Options) (env : Environment) :
    (TlsKept options env ∧ ∀ (c : NatsClient) (a : Answers) (env : Environment),
      c.initializeAttempt a env =
        NatsConnectionState.connectAttempt (c.current_config.getD a.fetched).nats_opt env) ↔
    (options.lookup "tls_ca_path" = none ∨ env.current_dir ≠ none) := by
  constructor
  · rintro ⟨hkept, -⟩
    cases hca : options.lookup "tls_ca_path" with
    | none => exact Or.inl rfl
    | some ca =>
      right
      intro hroot
      exact not_secures_of_no_current_dir hroot ca _ (hkept ca hca).2
  · intro hcond
    refine ⟨fun ca hca => ?_, initializeAttempt_eq⟩
    have hsome := hcond.resolve_left (by rw [hca]; simp)
    obtain ⟨root, hroot⟩ := Option.ne_none_iff_exists'.mp hsome
    refine ⟨fun c a hconfig => ?_, secures_of_current_dir hca hroot⟩
    rw [initializeAttempt_eq, hconfig]
    exact secures_of_current_dir hca hroot

/-- A server with a CA, in a process whose current directory is gone: the attempt is made in plain
text. -/
theorem tls_lost :
    ¬ TlsKept (collectOptions [("host", "nats.example"), ("tls_ca_path", "/etc/ca.pem")])
      ⟨none⟩ := by
  intro h
  obtain ⟨root, hrequired, -⟩ := (h "/etc/ca.pem" rfl).2
  exact absurd hrequired (by decide)

end PgNats
