import Mathlib.Data.List.Induction
import Mathlib.Data.List.Perm.Basic
import PgNats.Config

/-!
# The options in the catalog

`fetch_config` takes the options of the server from the list that Postgres builds of the catalog's
row. The list is one of C structs, so the loop tests each pointer on the way to a value and passes
over an element without a string. `validatorConfig_eq_fetchConfigFrom` says that the validator makes
the same configuration of the texts of the options, in whatever order it gets them: a name without
an equals sign is split off where it was put on, and the map of options with different names does
not depend on their order.
-/

namespace PgNats

/-- A C string: a text without a null character. -/
@[ext]
structure CString where
  /-- The text. -/
  text : String
  /-- It has no null character. -/
  nul_free : '\x00' ∉ text.toList

instance : DecidableEq CString := fun _ _ => decidable_of_iff _ CString.ext_iff.symm

/-- The node that `arg` points to. -/
inductive Node where
  /-- A node with the tag `T_String`, unless its pointer is null. -/
  | string (val : Option String)
  /-- A node with another tag. -/
  | other
  deriving DecidableEq, Repr

/-- `DefElem`, with `none` for a null pointer. -/
structure DefElem where
  /-- The name of the option. -/
  defname : Option String
  /-- Its value. -/
  arg : Option Node
  deriving DecidableEq, Repr

/-- `ForeignServer`. -/
structure ForeignServer where
  /-- The name. -/
  servername : CString
  /-- The list of the options, in which an element may be null, as the list itself may. -/
  options : Option (List (Option DefElem))
  deriving DecidableEq

/-- The key and the value of an element that has both. -/
def DefElem.pair? : Option DefElem → Option (String × String)
  | some { defname := some key, arg := some (.string (some value)) } => some (key, value)
  | _ => none

/-- The body of the loop of `fetch_config`. -/
def insertDefElem (options : Options) (def_elem : Option DefElem) : Options :=
  match DefElem.pair? def_elem with
  | some (key, value) => options.insert key value
  | none => options

/-- `fetch_fdw_server_name`: the first row of the query that holds a name. -/
def fetchFdwServerName (rows : List (Option String)) : Option String := (rows.filterMap id).head?

/-- `CString::new`. -/
def CString.new (text : String) : Option CString :=
  if h : '\x00' ∈ text.toList then none else some ⟨text, h⟩

/-- `GetForeignServerByName`, which returns a null pointer when there is none. -/
def getForeignServerByName (servers : List ForeignServer) (name : CString) : Option ForeignServer :=
  servers.find? fun server => server.servername = name

/-- `fetch_config`, where the catalog has these servers of the wrapper. -/
def fetchConfigFrom (servers : List ForeignServer) : Config :=
  match fetchFdwServerName (servers.map fun server => some server.servername.text) with
  | none => parseConfig ∅
  | some fdw_server_name =>
    match CString.new fdw_server_name with
    | none => parseConfig ∅
    | some fdw_server_name =>
      match getForeignServerByName servers fdw_server_name with
      | none => parseConfig ∅
      | some server =>
        match server.options with
        | none => parseConfig ∅
        | some options_list => parseConfig (options_list.foldl insertDefElem ∅)

/-- What Postgres makes of a server's options. Without options, there is no list. -/
def defElems (options : List (String × String)) : Option (List (Option DefElem)) :=
  if options.isEmpty then none
  else some (options.map fun option =>
    some { defname := some option.1, arg := some (.string (some option.2)) })

/-! ## The map of the options -/

section Options

variable {options options' : List (String × String)}

/-- A configuration depends only on what the options look up. -/
theorem parseConfig_congr {a b : Options} (h : ∀ name, a.lookup name = b.lookup name) :
    parseConfig a = parseConfig b := by
  unfold parseConfig
  simp only [h]

/-- Pairs with different names look up what they hold. -/
theorem lookup_collectOptions (hnodup : (options.map Prod.fst).Nodup) {name value : String} :
    (collectOptions options).lookup name = some value ↔ (name, value) ∈ options := by
  -- By induction from the end, where the loop of `collectOptions` makes its last insert.
  induction options using List.reverseRecOn with
  | nil => simp [collectOptions]
  | append_singleton options option ih =>
    rw [List.map_append, List.nodup_append] at hnodup
    obtain ⟨hinit, -, hdisjoint⟩ := hnodup
    have hnew : ∀ value, (option.1, value) ∉ options := fun value hmem =>
      hdisjoint option.1 (List.mem_map.mpr ⟨_, hmem, rfl⟩) option.1 (List.mem_singleton.mpr rfl) rfl
    have hcollect : collectOptions (options ++ [option]) =
        (collectOptions options).insert option.1 option.2 := by
      unfold collectOptions
      rw [List.foldl_append]
      rfl
    rw [hcollect, List.mem_append, List.mem_singleton]
    rcases eq_or_ne name option.1 with rfl | hne
    · rw [AList.lookup_insert]
      constructor
      · intro h
        exact Or.inr (Prod.ext rfl (Option.some.inj h).symm)
      · rintro (hmem | hpair)
        · exact absurd hmem (hnew value)
        · exact congrArg (some ∘ Prod.snd) hpair.symm
    · rw [AList.lookup_insert_ne hne, ih hinit]
      refine (or_iff_left ?_).symm
      rintro rfl
      exact hne rfl

/-- The configuration of options with different names does not depend on their order. -/
theorem parseConfig_perm (hperm : options.Perm options') (hnodup : (options.map Prod.fst).Nodup) :
    parseConfig (collectOptions options) = parseConfig (collectOptions options') := by
  refine parseConfig_congr fun name => Option.ext fun value => ?_
  have hnodup' : (options'.map Prod.fst).Nodup := (hperm.map Prod.fst).nodup_iff.mp hnodup
  rw [lookup_collectOptions hnodup, lookup_collectOptions hnodup', hperm.mem_iff]

/-- The loop of `fetch_config` collects the options that the list was built of. -/
theorem foldl_insertDefElem (options : List (String × String)) (init : Options) :
    (options.map fun option => some (DefElem.mk (some option.1) (some (.string (some option.2))))
      ).foldl insertDefElem init =
        options.foldl (fun options pair => options.insert pair.1 pair.2) init := by
  rw [List.foldl_map]
  rfl

/-- `fetch_config` makes the configuration of the first server's options. -/
theorem fetchConfigFrom_cons (servername : CString) (options : List (String × String))
    (others : List ForeignServer) :
    fetchConfigFrom ({ servername, options := defElems options } :: others) =
      parseConfig (collectOptions options) := by
  have hname : CString.new servername.text = some servername := dif_neg servername.nul_free
  have hserver : getForeignServerByName ({ servername, options := defElems options } :: others)
      servername = some { servername, options := defElems options } := by
    unfold getForeignServerByName
    rw [List.find?_cons_of_pos (by simp)]
  unfold fetchConfigFrom
  show (match CString.new servername.text with | none => _ | some _ => _) = _
  rw [hname]
  dsimp only
  rw [hserver]
  unfold defElems
  cases options with
  | nil => rfl
  | cons option options => exact congrArg parseConfig (foldl_insertDefElem _ ∅)

/-- On what Postgres makes of the servers, `fetchConfigFrom` is `fetchConfig` on the servers. -/
theorem fetchConfigFrom_eq_fetchConfig (servers : List (CString × List (String × String))) :
    fetchConfigFrom (servers.map fun server => ⟨server.1, defElems server.2⟩) =
      fetchConfig (servers.map fun server => ⟨server.1.text, server.2⟩) := by
  cases servers with
  | nil => rfl
  | cons server servers => exact fetchConfigFrom_cons server.1 server.2 _

/-- The validator makes of the texts of the options, in any order, the configuration that
`fetch_config` makes of the server in the catalog. -/
theorem validatorConfig_eq_fetchConfigFrom (hnodup : (options.map Prod.fst).Nodup)
    (hname : ∀ option ∈ options, '=' ∉ option.1.toList) {texts : List String}
    (hperm : texts.Perm (optionTexts options)) (servername : CString)
    (others : List ForeignServer) :
    validatorConfig texts =
      fetchConfigFrom ({ servername, options := defElems options } :: others) := by
  have hpairs : (texts.filterMap splitOnce).Perm options := by
    have hfilter := hperm.filterMap splitOnce
    rwa [filterMap_splitOnce_optionTexts hname] at hfilter
  calc validatorConfig texts
      = parseConfig (collectOptions options) :=
        parseConfig_perm hpairs ((hpairs.map Prod.fst).nodup_iff.mpr hnodup)
    _ = fetchConfigFrom ({ servername, options := defElems options } :: others) :=
        (fetchConfigFrom_cons servername options others).symm

/-- An empty value, one with equals signs and a number, in another order than the catalog's. -/
theorem validatorConfig_eq_fetchConfigFrom_reordered :
    validatorConfig ["port=4223", "notify_subject=a=b=", "host="] =
        fetchConfigFrom [⟨⟨"nats", by decide⟩,
          defElems [("host", ""), ("port", "4223"), ("notify_subject", "a=b=")]⟩] ∧
      validatorConfig ["port=4223", "notify_subject=a=b=", "host="] =
        { nats_opt := { host := "", port := 4223, capacity := 128, tls := none }
          notify_subject := "a=b="
          patroni_url := none } :=
  ⟨validatorConfig_eq_fetchConfigFrom (by decide) (by decide) (by decide) _ _, by decide⟩

end Options

end PgNats
