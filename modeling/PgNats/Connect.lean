import PgNats.Config

/-!
# Connections to the NATS server

A connection is known by which of its process's connections it is and by the options it was opened
with. Two handles belong to the same connection when they carry the same `Client`.

An attempt to connect is an address and the settings of `async_nats::ConnectOptions` that the two
connect routines make. `require_tls` is off by default, and then the client takes a connection
without TLS. The environment of an attempt is what `std::env::current_dir` gives.
-/

namespace PgNats

/-- `async_nats::Client`. -/
structure Client where
  /-- Which of the process's connections it is. -/
  id : ℕ
  /-- What it was opened with. -/
  opts : NatsConnectionOptions
  deriving DecidableEq, Repr

/-- The settings of `async_nats::ConnectOptions` that the connect routines make. -/
structure ConnectOptions where
  /-- `client_capacity`. -/
  client_capacity : UInt64
  /-- `require_tls`. -/
  require_tls : Bool
  /-- The files given to `add_root_certificates`. -/
  root_certificates : List String
  /-- The files given to `add_client_certificate`: the certificate and the key. -/
  client_certificate : Option (String × String)
  deriving DecidableEq, Repr

namespace ConnectOptions

/-- `ConnectOptions::new().client_capacity(capacity)`. -/
def new (capacity : UInt64) : ConnectOptions where
  client_capacity := capacity
  require_tls := false
  root_certificates := []
  client_certificate := none

/-- `require_tls`. -/
def requireTls (opts : ConnectOptions) (required : Bool) : ConnectOptions :=
  { opts with require_tls := required }

/-- `add_root_certificates`. -/
def addRootCertificates (opts : ConnectOptions) (path : String) : ConnectOptions :=
  { opts with root_certificates := opts.root_certificates ++ [path] }

/-- `add_client_certificate`. -/
def addClientCertificate (opts : ConnectOptions) (cert key : String) : ConnectOptions :=
  { opts with client_certificate := some (cert, key) }

end ConnectOptions

/-- `ConnectOptions::connect`. -/
structure Attempt where
  /-- The settings. -/
  opts : ConnectOptions
  /-- The address. -/
  addr : String
  deriving DecidableEq, Repr

/-- What the process finds around it. -/
structure Environment where
  /-- What `std::env::current_dir` gives, unless it fails. -/
  current_dir : Option String
  deriving DecidableEq, Repr

/-- `Path::join` on Unix: an absolute path replaces the first one, and another path is put behind
it. -/
def joinPath (root path : String) : String :=
  if path.toList.head? = some '/' then path
  else if root.toList.getLast?.all (· == '/') then root ++ path
  else root ++ "/" ++ path

end PgNats
