import Mathlib.Data.List.AList

/-!
# Server options and the configuration

The model of `src/config.rs` and of the option list that `fdw_validator` splits. The options of the
foreign server reach the extension on two paths. The validator gets `name=value` texts and
`fetch_config` reads name and value pairs from the catalog; both collect them in a map, where a
later pair replaces an earlier one of the same name, and hand the map to `parseConfig`. The two
paths agree on options whose names contain no equals sign (`validatorConfig_optionTexts`).

The parsing of numbers follows `str::parse` for the unsigned types: an optional plus sign, then at
least one decimal digit and nothing else, with a value in the type's range.
-/

namespace PgNats

/-- `NatsTlsOptions`. -/
inductive NatsTlsOptions where
  /-- The server is checked against the CA. -/
  | tls (ca : String)
  /-- The server is checked against the CA, and the client presents a certificate. -/
  | mutualTls (ca cert key : String)
  deriving DecidableEq, Repr

/-- `NatsConnectionOptions`. -/
structure NatsConnectionOptions where
  /-- The host of the NATS server. -/
  host : String
  /-- Its port. -/
  port : UInt16
  /-- The capacity of the client's command channel. -/
  capacity : UInt64
  /-- The TLS options, if TLS is required. -/
  tls : Option NatsTlsOptions
  deriving DecidableEq, Repr

/-- `Config`. -/
structure Config where
  /-- The options of the connection. -/
  nats_opt : NatsConnectionOptions
  /-- The subject of the role change notifications. -/
  notify_subject : String
  /-- Where the Patroni name of the instance is asked for. -/
  patroni_url : Option String
  deriving DecidableEq, Repr

/-- `DEFAULT_NATS_HOST`. -/
def DEFAULT_NATS_HOST : String := "127.0.0.1"

/-- `DEFAULT_NATS_PORT`. -/
def DEFAULT_NATS_PORT : UInt16 := 4222

/-- `DEFAULT_NATS_CAPACITY`. -/
def DEFAULT_NATS_CAPACITY : UInt64 := 128

/-- `DEFAULT_NOTIFY_SUBJECT`. -/
def DEFAULT_NOTIFY_SUBJECT : String := "pgnats.postgresql.replication.status"

/-- The map from option names to values. -/
abbrev Options := AList fun _ : String => String

/-- Name and value pairs collected in a map, in order. -/
def collectOptions (pairs : List (String × String)) : Options :=
  pairs.foldl (fun options pair => options.insert pair.1 pair.2) ∅

/-- The value of a text of decimal digits. -/
def parseDigits : List Char → ℕ → Option ℕ
  | [], n => some n
  | c :: cs, n => if c.isDigit then parseDigits cs (10 * n + (c.toNat - '0'.toNat)) else none

/-- `str::parse` for an unsigned type with `bound` values. -/
def parseUnsigned (bound : ℕ) (s : String) : Option ℕ :=
  let digits := match s.toList with
    | '+' :: cs => cs
    | cs => cs
  if digits.isEmpty then none else (parseDigits digits 0).filter (· < bound)

/-- `parse_config`. -/
def parseConfig (options : Options) : Config where
  nats_opt :=
    { host := (options.lookup "host").getD DEFAULT_NATS_HOST
      port := (((options.lookup "port").bind (parseUnsigned UInt16.size)).map UInt16.ofNat).getD
        DEFAULT_NATS_PORT
      capacity := (((options.lookup "capacity").bind (parseUnsigned UInt64.size)).map
        UInt64.ofNat).getD DEFAULT_NATS_CAPACITY
      tls := match options.lookup "tls_ca_path" with
        | some ca =>
          match options.lookup "tls_cert_path", options.lookup "tls_key_path" with
          | some cert, some key => some (.mutualTls ca cert key)
          | _, _ => some (.tls ca)
        | none => none }
  notify_subject := (options.lookup "notify_subject").getD DEFAULT_NOTIFY_SUBJECT
  patroni_url := options.lookup "patroni_url"

/-! ## The two paths -/

/-- A foreign server of the extension's wrapper, as the catalog holds it. -/
structure Server where
  /-- The name. -/
  name : String
  /-- The names and values of the options. -/
  options : List (String × String)
  deriving DecidableEq, Repr

/-- The configuration that the options of a server stand for. -/
def Server.config (server : Server) : Config := parseConfig (collectOptions server.options)

/-- `fetch_config` on the servers that are visible: the first one's options, or the defaults. -/
def fetchConfig (servers : List Server) : Config :=
  match servers.head? with
  | some server => server.config
  | none => parseConfig ∅

/-- `split_once('=')`. -/
def splitOnce (s : String) : Option (String × String) :=
  match s.toList.dropWhile (· ≠ '=') with
  | [] => none
  | _ :: value => some (String.ofList (s.toList.takeWhile (· ≠ '=')), String.ofList value)

/-- The configuration that `fdw_validator` makes of the option texts. -/
def validatorConfig (options : List String) : Config :=
  parseConfig (collectOptions (options.filterMap splitOnce))

/-- The texts in which Postgres hands options to the validator. -/
def optionTexts (options : List (String × String)) : List String :=
  options.map fun option => option.1 ++ "=" ++ option.2

/-- An option whose name has no equals sign is split where it was put together. -/
theorem splitOnce_text {name value : String} (h : '=' ∉ name.toList) :
    splitOnce (name ++ "=" ++ value) = some (name, value) := by
  have hall : ∀ c ∈ name.toList, decide (c ≠ '=') = true := by
    intro c hc
    rw [decide_eq_true_iff]
    rintro rfl
    exact h hc
  have htext : (name ++ "=" ++ value).toList = name.toList ++ '=' :: value.toList := by simp
  unfold splitOnce
  rw [htext, List.dropWhile_append_of_pos hall, List.takeWhile_append_of_pos hall,
    List.dropWhile_cons_of_neg (by simp), List.takeWhile_cons_of_neg (by simp), List.append_nil,
    String.ofList_toList]
  dsimp only
  rw [String.ofList_toList]

/-- The options are split from their texts, when no name has an equals sign. -/
theorem filterMap_splitOnce_optionTexts {options : List (String × String)}
    (h : ∀ option ∈ options, '=' ∉ option.1.toList) :
    (optionTexts options).filterMap splitOnce = options := by
  unfold optionTexts
  rw [List.filterMap_map]
  calc options.filterMap (splitOnce ∘ fun option => option.1 ++ "=" ++ option.2)
      = options.filterMap some := by
        apply List.filterMap_congr
        intro option hmem
        exact splitOnce_text (h option hmem)
    _ = options := List.filterMap_some

/-- The validator reads from the texts what the catalog holds, when no name has an equals sign. -/
theorem validatorConfig_optionTexts {options : List (String × String)}
    (h : ∀ option ∈ options, '=' ∉ option.1.toList) :
    validatorConfig (optionTexts options) = parseConfig (collectOptions options) := by
  unfold validatorConfig
  rw [filterMap_splitOnce_optionTexts h]

end PgNats
