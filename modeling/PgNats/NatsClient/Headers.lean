import PgNats.NatsClient.Basic

/-!
# The headers of a published message

The model of `extract_headers` in `src/utils.rs`, and of the calls that `publish` and
`publish_stream` in `src/nats_client.rs` make with what it returns. The headers come as JSON.
`HeaderMap` is what the code relies on of the type that `async_nats` has for them, which keeps a
list of values for each key.

`extract_headers` takes the fields that are strings and passes over all others. So a header with
several values is lost, and so is one whose single value is given in an array, as the headers of a
stored object are (`lookup_extractHeaders_headersJson`). `headers_kept_iff` says that nothing else
is lost. An array without elements has no value that could be.
-/

namespace PgNats

/-- `serde_json::Value`. The fields of an object stand in the order of its iteration. -/
inductive Value where
  /-- `null`. -/
  | null
  /-- A boolean. -/
  | bool (b : Bool)
  /-- A number, by its text. -/
  | number (text : String)
  /-- A string. -/
  | string (s : String)
  /-- An array. -/
  | array (values : List Value)
  /-- An object. -/
  | object (fields : List (Sigma fun _ : String => Value))
  deriving Repr

namespace Value

/-- `Value::as_str`. -/
def asStr? : Value → Option String
  | string s => some s
  | _ => none

/-- `Value::as_object`. -/
def asObject? : Value → Option (List (Sigma fun _ : String => Value))
  | object fields => some fields
  | _ => none

/-- The values of a header that is given as a string or as an array of strings. -/
def headerStrings? : Value → Option (List String)
  | string s => some [s]
  | array values => values.mapM asStr?
  | _ => none

/-- Only an empty array gives no values. -/
theorem eq_nil_of_headerStrings? {values : List Value}
    (h : headerStrings? (array values) = some []) : values = [] := by
  cases values with
  | nil => rfl
  | cons v values => simp [headerStrings?, Option.bind_eq_some_iff] at h

/-- An array of strings gives them. -/
theorem headerStrings?_array_map (strings : List String) :
    headerStrings? (array (strings.map string)) = some strings := by
  induction strings with
  | nil => rfl
  | cons s strings ih =>
    change (strings.map string).mapM asStr? = some strings at ih
    change (string s :: strings.map string).mapM asStr? = some (s :: strings)
    rw [List.mapM_cons, ih]
    rfl

end Value

/-- `serde_json::Map`: an object, whose keys are distinct. -/
abbrev Object := HashMap String Value

namespace Object

/-- The object as a value. -/
def toValue (obj : Object) : Value := .object obj.entries

/-- Each field is a string or an array of strings. -/
def HeaderShape (obj : Object) : Prop := ∀ field ∈ obj.entries, field.2.headerStrings?.isSome

instance (obj : Object) : Decidable obj.HeaderShape := List.decidableBAll _ _

end Object

/-! ## The header map -/

/-- `async_nats::HeaderMap`. -/
class HeaderMap (H : Type) where
  /-- `HeaderMap::new`. -/
  new : H
  /-- `HeaderMap::append`. -/
  append : H → String → String → H
  /-- The keys and their lists of values, as the map is serialised. -/
  entries : H → HashMap String (List String)
  /-- A new map has no keys. -/
  lookup_new : ∀ k, (entries new).lookup k = none
  /-- `append` adds the value to the list of its key, and makes one if there is none. -/
  lookup_append_self : ∀ m k v,
    (entries (append m k v)).lookup k = some (((entries m).lookup k).getD [] ++ [v])
  /-- `append` keeps the lists of the other keys. -/
  lookup_append_ne : ∀ m {k k'} v, k' ≠ k →
    (entries (append m k v)).lookup k' = (entries m).lookup k'

/-- A map that is its entries. -/
instance : HeaderMap (HashMap String (List String)) where
  new := ∅
  append m k v := m.insert k ((m.lookup k).getD [] ++ [v])
  entries m := m
  lookup_new := AList.lookup_empty
  lookup_append_self _ _ _ := AList.lookup_insert _
  lookup_append_ne _ _ _ _ hne := AList.lookup_insert_ne hne

section Headers

variable {H : Type} [HeaderMap H]

/-- The body of the loop in `extract_headers`. -/
def appendHeader (map : H) (k : String) (v : Value) : H :=
  match v.asStr? with
  | some v => HeaderMap.append map k v
  | none => map

/-- `extract_headers`. -/
def extractHeaders (v : Value) : H :=
  match v.asObject? with
  | some obj => obj.foldl (fun map field => appendHeader map field.1 field.2) HeaderMap.new
  | none => HeaderMap.new

/-- What `append` makes of the list of its key. -/
def pushHeader (values : Option (List String)) (v : String) : Option (List String) :=
  some (values.getD [] ++ [v])

/-- One field changes the list of its own key only, and only if it is a string. -/
theorem lookup_appendHeader (map : H) (k k' : String) (v : Value) :
    (HeaderMap.entries (appendHeader map k' v)).lookup k =
      if k = k' then v.asStr?.toList.foldl pushHeader ((HeaderMap.entries map).lookup k)
      else (HeaderMap.entries map).lookup k := by
  cases hv : v.asStr? with
  | none =>
    have hskip : appendHeader map k' v = map := by rw [appendHeader, hv]
    rw [hskip, Option.toList_none, List.foldl_nil, ite_self]
  | some s =>
    have happend : appendHeader map k' v = HeaderMap.append map k' s := by rw [appendHeader, hv]
    rw [happend]
    rcases eq_or_ne k k' with rfl | hne
    · rw [if_pos rfl]
      exact HeaderMap.lookup_append_self _ _ _
    · rw [if_neg hne]
      exact HeaderMap.lookup_append_ne _ _ hne

/-- The loop adds the strings under a key to its list, in their order. -/
theorem lookup_foldl_appendHeader (k : String) (fields : List (Sigma fun _ : String => Value))
    (map : H) :
    (HeaderMap.entries (fields.foldl (fun map field => appendHeader map field.1 field.2)
      map)).lookup k =
        ((fields.lookupAll k).filterMap Value.asStr?).foldl pushHeader
          ((HeaderMap.entries map).lookup k) := by
  induction fields generalizing map with
  | nil => rfl
  | cons field fields ih =>
    obtain ⟨k', v⟩ := field
    rw [List.foldl_cons, ih, lookup_appendHeader]
    rcases eq_or_ne k k' with rfl | hne
    · rw [if_pos rfl, List.lookupAll_cons_eq]
      cases hv : v.asStr? with
      | none => rw [List.filterMap_cons_none hv]; rfl
      | some s => rw [List.filterMap_cons_some hv]; rfl
    · rw [if_neg hne, List.lookupAll_cons_ne _ _ hne]

/-- The header map has the fields of the object that are strings, each as one value. -/
theorem lookup_extractHeaders (obj : Object) (k : String) :
    (HeaderMap.entries (extractHeaders obj.toValue : H)).lookup k =
      ((obj.lookup k).bind Value.asStr?).map fun s => [s] := by
  have hfields : (extractHeaders obj.toValue : H) =
      obj.entries.foldl (fun map field => appendHeader map field.1 field.2) HeaderMap.new := rfl
  rw [hfields, lookup_foldl_appendHeader, HeaderMap.lookup_new,
    List.lookupAll_eq_dlookup k obj.nodupKeys]
  change (List.filterMap Value.asStr? (obj.lookup k).toList).foldl pushHeader none = _
  cases obj.lookup k with
  | none => rfl
  | some v =>
    cases hv : v.asStr? with
    | none => simp [hv]
    | some s => simp [hv, pushHeader]

/-- The map has the header of each field of the object, with all its values in their order, and no
other. -/
structure Carries (map : H) (obj : Object) : Prop where
  /-- The values of each field. -/
  field : ∀ k v values, obj.lookup k = some v → v.headerStrings? = some values →
    ((HeaderMap.entries map).lookup k).getD [] = values
  /-- No other key. -/
  no_other : ∀ k, obj.lookup k = none → (HeaderMap.entries map).lookup k = none

/-- Of an object whose fields are strings and arrays of strings, `extract_headers` loses the arrays
that have elements. -/
theorem carries_extractHeaders_iff (obj : Object) (hshape : obj.HeaderShape) :
    Carries (extractHeaders obj.toValue : H) obj ↔
      ∀ k values, obj.lookup k = some (.array values) → values = [] := by
  constructor
  · intro hcarries k values hfield
    obtain ⟨strings, hstrings⟩ :=
      Option.isSome_iff_exists.mp (hshape ⟨k, .array values⟩ (AList.mem_lookup_iff.mp hfield))
    have hkept := hcarries.field k (.array values) strings hfield hstrings
    rw [lookup_extractHeaders, hfield] at hkept
    have hnil : strings = [] := hkept.symm
    exact Value.eq_nil_of_headerStrings? (hnil ▸ hstrings)
  · intro harrays
    refine ⟨fun k v values hfield hstrings => ?_, fun k hnone => ?_⟩
    · rw [lookup_extractHeaders, hfield]
      cases v with
      | string s => exact Option.some.inj hstrings
      | array elements =>
        rw [harrays k elements hfield] at hstrings ⊢
        exact Option.some.inj hstrings
      | _ => cases hstrings
    · rw [lookup_extractHeaders, hnone]
      rfl

/-- The headers of a stored object as `get_file_info` returns them. -/
def headersJson (map : H) : Object :=
  (HashMap.mapAccum (fun () _ values => ((), Value.array (values.map .string))) ()
    (HeaderMap.entries map)).2

/-- Each key has an array of its values. -/
theorem lookup_headersJson (map : H) (k : String) :
    (headersJson map).lookup k =
      ((HeaderMap.entries map).lookup k).map fun values => .array (values.map .string) := by
  have hvalues := HashMap.lookup_mapAccum_map
    (fun () (_ : String) values => ((), Value.array (values.map .string)))
    (fun values => Value.array (values.map .string)) id (fun _ _ _ => rfl) ()
    (HeaderMap.entries map) k
  rwa [Option.map_id] at hvalues

/-- These are fields of the shape that the headers of a message may have. -/
theorem headerShape_headersJson (map : H) : (headersJson map).HeaderShape := by
  intro field hfield
  have hlookup : (headersJson map).lookup field.1 = some field.2 := AList.mem_lookup_iff.mpr hfield
  rw [lookup_headersJson] at hlookup
  obtain ⟨values, -, hvalues⟩ := Option.map_eq_some_iff.mp hlookup
  rw [← hvalues, Value.headerStrings?_array_map]
  rfl

/-- Given as the headers of a message, they are all lost. -/
theorem lookup_extractHeaders_headersJson (map : H) (k : String) :
    (HeaderMap.entries (extractHeaders (headersJson map).toValue : H)).lookup k = none := by
  rw [lookup_extractHeaders, lookup_headersJson]
  cases (HeaderMap.entries map).lookup k <;> rfl

end Headers

/-! ## What is sent -/

/-- A call of `async_nats` that publishes a message, on a client or on a JetStream context. -/
inductive PublishCall (H : Type) where
  /-- `publish`. -/
  | publish (subject : String) (message : List UInt8)
  /-- `publish_with_reply`. -/
  | publishWithReply (subject reply : String) (message : List UInt8)
  /-- `publish_with_headers`. -/
  | publishWithHeaders (subject : String) (headers : H) (message : List UInt8)
  /-- `publish_with_reply_and_headers`. -/
  | publishWithReplyAndHeaders (subject reply : String) (headers : H) (message : List UInt8)

/-- The headers that a call sends. -/
def PublishCall.headers? {H : Type} : PublishCall H → Option H
  | publish _ _ => none
  | publishWithReply _ _ _ => none
  | publishWithHeaders _ headers _ => some headers
  | publishWithReplyAndHeaders _ _ headers _ => some headers

namespace NatsClient

variable (H : Type) [HeaderMap H]

/-- `publish` with its arguments: the call that it makes and the client that it makes it on. The
message is what `to_bytes` returns. -/
def publishCall (c : NatsClient) (subject : String) (message : Option (List UInt8))
    (reply : Option String) (headers : Option Value) (a : Answers) :
    NatsClient × Except Failure (Client × PublishCall H) :=
  match message with
  | none => (c, .error .error)
  | some message =>
    match c.getConnection a with
    | (c, .error e) => (c, .error e)
    | (c, .ok conn) =>
      let headers : Option H := headers.map extractHeaders
      let call : PublishCall H :=
        match reply with
        | some reply =>
          match headers with
          | some headers => .publishWithReplyAndHeaders subject reply headers message
          | none => .publishWithReply subject reply message
        | none =>
          match headers with
          | some headers => .publishWithHeaders subject headers message
          | none => .publish subject message
      (c, .ok (conn, call))

/-- `publish_stream` with its arguments: the call that it makes and the context that it makes it
on. -/
def publishStreamCall (c : NatsClient) (subject : String) (message : Option (List UInt8))
    (headers : Option Value) (a : Answers) :
    NatsClient × Except Failure (JetStream × PublishCall H) :=
  match message with
  | none => (c, .error .error)
  | some message =>
    let headers : Option H := headers.map extractHeaders
    match c.getJetstream a with
    | (c, .error e) => (c, .error e)
    | (c, .ok js) =>
      match headers with
      | some headers => (c, .ok (js, .publishWithHeaders subject headers message))
      | none => (c, .ok (js, .publish subject message))

/-- Without its arguments `publish` is that of the client's model. -/
theorem publish_eq_publishCall (c : NatsClient) (subject : String) (message : Option (List UInt8))
    (reply : Option String) (headers : Option Value) (a : Answers) :
    (c.publishCall H subject message reply headers a).map id (Except.map Prod.fst) =
      c.publish message.isSome a := by
  unfold publishCall publish
  cases message with
  | none => rfl
  | some message =>
    rw [Option.isSome_some, if_pos rfl]
    dsimp only
    cases c.getConnection a with
    | mk c' result => cases result <;> rfl

/-- Without its arguments `publish_stream` is that of the client's model. -/
theorem publishStream_eq_publishStreamCall (c : NatsClient) (subject : String)
    (message : Option (List UInt8)) (headers : Option Value) (a : Answers) :
    (c.publishStreamCall H subject message headers a).map id
        (Except.map fun call => call.1.client) =
      c.publishStream message.isSome a := by
  unfold publishStreamCall publishStream
  cases message with
  | none => rfl
  | some message =>
    rw [Option.isSome_some, if_pos rfl]
    dsimp only
    cases c.getJetstream a with
    | mk c' result => cases result <;> cases headers <;> rfl

variable {H}

/-- The call of `publish` sends the headers that `extract_headers` makes of those given. -/
theorem headers_publishCall {c c' : NatsClient} {subject : String} {message : Option (List UInt8)}
    {reply : Option String} {headers : Option Value} {a : Answers} {conn : Client}
    {call : PublishCall H}
    (hcall : c.publishCall H subject message reply headers a = (c', .ok (conn, call))) :
    call.headers? = headers.map extractHeaders := by
  unfold publishCall at hcall
  cases message with
  | none => cases hcall
  | some message =>
    dsimp only at hcall
    cases hconn : c.getConnection a with
    | mk c₁ result =>
      rw [hconn] at hcall
      cases result with
      | error e => cases hcall
      | ok conn₁ => cases reply <;> cases headers <;> cases hcall <;> rfl

/-- The call of `publish_stream` sends the headers that `extract_headers` makes of those given. -/
theorem headers_publishStreamCall {c c' : NatsClient} {subject : String}
    {message : Option (List UInt8)} {headers : Option Value} {a : Answers} {js : JetStream}
    {call : PublishCall H}
    (hcall : c.publishStreamCall H subject message headers a = (c', .ok (js, call))) :
    call.headers? = headers.map extractHeaders := by
  unfold publishStreamCall at hcall
  cases message with
  | none => cases hcall
  | some message =>
    dsimp only at hcall
    cases hjs : c.getJetstream a with
    | mk c₁ result =>
      rw [hjs] at hcall
      cases result with
      | error e => cases hcall
      | ok js₁ => cases headers <;> cases hcall <;> rfl

/-- Every message that `publish` or `publish_stream` sends with the object for its headers carries
all of them, whatever the client, the message, and the answers. -/
structure HeadersKept (H : Type) [HeaderMap H] (obj : Object) : Prop where
  /-- The messages of `publish`. -/
  publish : ∀ (c c' : NatsClient) subject message reply a conn (call : PublishCall H),
    c.publishCall H subject message reply (some obj.toValue) a = (c', .ok (conn, call)) →
      ∃ headers, call.headers? = some headers ∧ Carries headers obj
  /-- The messages of `publish_stream`. -/
  publish_stream : ∀ (c c' : NatsClient) subject message a js (call : PublishCall H),
    c.publishStreamCall H subject message (some obj.toValue) a = (c', .ok (js, call)) →
      ∃ headers, call.headers? = some headers ∧ Carries headers obj

/-- The headers are kept when `extract_headers` keeps them. -/
theorem headersKept_iff_carries (obj : Object) :
    HeadersKept H obj ↔ Carries (extractHeaders obj.toValue : H) obj := by
  constructor
  · -- A client with a connection sends the message, whatever else it has.
    intro hkept
    let conn : Client := { id := 0, opts := (fetchConfig []).nats_opt }
    let c : NatsClient := { new none with connection := some conn }
    let a : Answers := ⟨fetchConfig [], true, true, true⟩
    obtain ⟨headers, hheaders, hcarries⟩ :=
      hkept.publish c c "" (some []) none a conn (.publishWithHeaders "" _ []) rfl
    rwa [← Option.some.inj hheaders] at hcarries
  · intro hcarries
    exact {
      publish := fun _ _ _ _ _ _ _ _ hcall => ⟨_, headers_publishCall hcall, hcarries⟩
      publish_stream := fun _ _ _ _ _ _ _ hcall =>
        ⟨_, headers_publishStreamCall hcall, hcarries⟩ }

variable (H) in
/-- Of headers that are strings and arrays of strings, those are lost that are arrays with
elements. -/
theorem headers_kept_iff (obj : Object) (hshape : obj.HeaderShape) :
    HeadersKept H obj ↔ ∀ k values, obj.lookup k = some (.array values) → values = [] := by
  rw [headersKept_iff_carries]
  exact carries_extractHeaders_iff obj hshape

/-- Headers that are strings, and one without a value. -/
def stringHeaders : Object :=
  AList.insert "x-id" (.string "123") (AList.insert "x-trace" (.array []) ∅)

/-- These are kept. -/
theorem stringHeaders_kept : HeadersKept (HashMap String (List String)) stringHeaders := by
  apply (headers_kept_iff (HashMap String (List String)) stringHeaders (by decide)).mpr
  intro k values hfield
  have hmem : (⟨k, .array values⟩ : Sigma fun _ : String => Value) ∈
      [⟨"x-id", .string "123"⟩, ⟨"x-trace", .array []⟩] := AList.mem_lookup_iff.mp hfield
  simp only [List.mem_cons, Sigma.mk.injEq, heq_eq_eq, reduceCtorEq, and_false, false_or,
    Value.array.injEq, List.not_mem_nil, or_false] at hmem
  exact hmem.2

/-- The headers of the repository's test of `publish`. -/
def testHeaders : Object :=
  AList.insert "x-id" (.array [.string "123"])
    (AList.insert "x-type" (.array [.string "unit-test"]) ∅)

/-- Both of them are lost: the header map is empty. -/
theorem testHeaders_lost :
    testHeaders.HeaderShape ∧
      (extractHeaders testHeaders.toValue : HashMap String (List String)) = ∅ ∧
      ¬ HeadersKept (HashMap String (List String)) testHeaders := by
  refine ⟨by decide, rfl, fun hkept => ?_⟩
  have hcarries := (headersKept_iff_carries testHeaders).mp hkept
  have hfield : testHeaders.lookup "x-id" = some (.array [.string "123"]) := by rfl
  have hvalues := hcarries.field "x-id" _ ["123"] hfield rfl
  cases hvalues

end NatsClient

end PgNats
