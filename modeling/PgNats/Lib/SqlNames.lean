import Mathlib.Data.List.TakeWhile

/-!
# Names in SQL texts

How Postgres reads and writes the name of a function. An unquoted identifier is folded to lower case
and cut to 63 bytes. A dotted name of two parts is a schema and a function, one of three parts has
the database in front, and some keywords are no identifiers. Texts are in UTF-8, where the folding
changes ASCII letters only. Which words are keywords depends on the version of Postgres, so
`keyword` is a parameter.

`quoteIdentifier` writes an identifier, in quotes if it needs them. `read_dotted_iff` says for which
names the plain text `schema.name` is read as that schema and that function.
-/

namespace PgNats.Sql

/-- The categories of keywords. -/
inductive KeywordCategory where
  /-- Good for every name. -/
  | unreserved
  /-- Good for the name of a schema, not for that of a function. -/
  | colName
  /-- Good for the name of a function, not for that of a schema. -/
  | typeFuncName
  /-- Good for no name, except after a dot. -/
  | reserved
  deriving DecidableEq, Repr

/-- `NAMEDATALEN`. -/
def NAMEDATALEN : ℕ := 64

/-- The number of bytes of a text. -/
def byteSize : List Char → ℕ
  | [] => 0
  | c :: cs => c.utf8Size + byteSize cs

/-- A name that Postgres allows. -/
structure Name where
  /-- The text. -/
  text : String
  /-- There is no empty name. -/
  nonempty : text.toList ≠ []
  /-- The text ends at the first zero byte. -/
  noNul : '\x00' ∉ text.toList
  /-- The text fits in a `NameData`. -/
  short : byteSize text.toList < NAMEDATALEN
  deriving DecidableEq

/-- A character that an unquoted identifier can start with. -/
def identStart (c : Char) : Bool := c.isAlpha || c == '_' || decide (128 ≤ c.toNat)

/-- A character that an unquoted identifier can go on with. -/
def identCont (c : Char) : Bool := identStart c || c.isDigit || c == '$'

/-- The beginning of a text that fits in so many bytes. -/
def clip : ℕ → List Char → List Char
  | _, [] => []
  | n, c :: cs => if c.utf8Size ≤ n then c :: clip (n - c.utf8Size) cs else []

/-- The identifier that an unquoted text stands for, if it is one. -/
def identifier (cs : List Char) : Option String :=
  if cs.head?.any identStart && cs.all identCont then
    some (String.ofList (clip (NAMEDATALEN - 1) (cs.map Char.toLower)))
  else none

/-- Whether an identifier can be the first part of a dotted name. -/
def isColId (keyword : String → Option KeywordCategory) (name : String) : Bool :=
  match keyword name with
  | none => true
  | some .unreserved => true
  | some .colName => true
  | some .typeFuncName => false
  | some .reserved => false

/-- Whether an identifier can be the name of a function by itself. -/
def isFunctionName (keyword : String → Option KeywordCategory) (name : String) : Bool :=
  match keyword name with
  | none => true
  | some .unreserved => true
  | some .colName => false
  | some .typeFuncName => true
  | some .reserved => false

/-- The function that an unquoted name stands for in a database: its schema, unless it is left to
the search path, and its name. -/
def readFunction (keyword : String → Option KeywordCategory) (database : String)
    (text : List Char) : Option (Option String × String) :=
  match (text.splitOn '.').mapM identifier with
  | some [name] => if isFunctionName keyword name then some (none, name) else none
  | some [schema, name] => if isColId keyword schema then some (some schema, name) else none
  | some [catalog, schema, name] =>
    -- References to other databases are rejected.
    if isColId keyword catalog ∧ catalog = database then some (some schema, name) else none
  | _ => none

/-- The text is an identifier and stands for itself. -/
def isPlain (cs : List Char) : Bool :=
  cs.head?.any (fun c => c.isLower || c == '_') &&
    cs.all fun c => c.isLower || c.isDigit || c == '_'

/-- Whether `quote_identifier` leaves a name as it is. -/
def isSafe (keyword : String → Option KeywordCategory) (name : String) : Bool :=
  isPlain name.toList &&
    match keyword name with
    | none => true
    | some .unreserved => true
    | _ => false

/-- `quote_identifier`. -/
def quoteIdentifier (keyword : String → Option KeywordCategory) (name : String) : String :=
  if isSafe keyword name then name
  else "\"" ++ String.ofList (name.toList.flatMap fun c => if c = '"' then ['"', '"'] else [c]) ++
    "\""

/-- `quote_qualified_identifier`. -/
def quoteQualified (keyword : String → Option KeywordCategory) (schema name : String) : String :=
  quoteIdentifier keyword schema ++ "." ++ quoteIdentifier keyword name

/-- `split_part(text, delimiter, 1)`, for a delimiter of one character. -/
def splitPart (text : String) (delimiter : Char) : String :=
  String.ofList (text.toList.takeWhile (· ≠ delimiter))

/-! ## Reading -/

/-- A text that fits is not cut. -/
theorem clip_eq_self {n : ℕ} {cs : List Char} (h : byteSize cs ≤ n) : clip n cs = cs := by
  induction cs generalizing n with
  | nil => rfl
  | cons c cs ih =>
    have hsize : byteSize (c :: cs) = c.utf8Size + byteSize cs := rfl
    rw [clip, if_pos (by omega), ih (by omega)]

/-- Cutting makes no text longer. -/
theorem length_clip_le (n : ℕ) (cs : List Char) : (clip n cs).length ≤ cs.length := by
  induction cs generalizing n with
  | nil => exact Nat.le_refl 0
  | cons c cs ih =>
    rw [clip]
    split_ifs with hfits
    · have := ih (n - c.utf8Size)
      rw [List.length_cons, List.length_cons]
      omega
    · exact Nat.zero_le _

/-- A text as long as before has not been cut. -/
theorem eq_of_length_clip {n : ℕ} {cs : List Char} (h : (clip n cs).length = cs.length) :
    clip n cs = cs := by
  induction cs generalizing n with
  | nil => rfl
  | cons c cs ih =>
    rw [clip] at h ⊢
    split_ifs at h ⊢ with hfits
    · rw [List.length_cons, List.length_cons] at h
      rw [ih (by omega)]

/-- An identifier is no longer than its text. -/
theorem length_identifier_le {cs : List Char} {name : String} (h : identifier cs = some name) :
    name.toList.length ≤ cs.length := by
  unfold identifier at h
  split_ifs at h with hident
  rw [← Option.some.inj h, String.toList_ofList]
  calc (clip (NAMEDATALEN - 1) (cs.map Char.toLower)).length
      ≤ (cs.map Char.toLower).length := length_clip_le _ _
    _ = cs.length := List.length_map _

/-- A range of characters is a range of code points. -/
theorem mem_range_iff {c : Char} {first last : UInt32} :
    first ≤ c.val ∧ c.val ≤ last ↔ first.toNat ≤ c.toNat ∧ c.toNat ≤ last.toNat := by
  rw [UInt32.le_iff_toNat_le, UInt32.le_iff_toNat_le]
  exact Iff.rfl

/-- The code points of the lower case letters. -/
theorem isLower_iff {c : Char} : c.isLower = true ↔ 97 ≤ c.toNat ∧ c.toNat ≤ 122 := by
  unfold Char.isLower
  rw [Bool.and_eq_true, decide_eq_true_iff, decide_eq_true_iff]
  exact mem_range_iff

/-- The code points of the upper case letters. -/
theorem isUpper_iff {c : Char} : c.isUpper = true ↔ 65 ≤ c.toNat ∧ c.toNat ≤ 90 := by
  show decide (c.val ≥ 'A'.val ∧ c.val ≤ 'Z'.val) = true ↔ _
  rw [decide_eq_true_iff]
  exact mem_range_iff

/-- The code points of the digits. -/
theorem isDigit_iff {c : Char} : c.isDigit = true ↔ 48 ≤ c.toNat ∧ c.toNat ≤ 57 := by
  unfold Char.isDigit
  rw [Bool.and_eq_true, decide_eq_true_iff, decide_eq_true_iff]
  exact mem_range_iff

/-- Folding leaves exactly the characters other than upper case letters as they are. -/
theorem toLower_eq_self_iff {c : Char} : c.toLower = c ↔ c.isUpper = false := by
  unfold Char.toLower
  split
  · next hrange =>
    have hupper : c.isUpper = true := decide_eq_true hrange
    refine iff_of_false ?_ (by rw [hupper]; simp)
    intro heq
    have hval : (c.val + 32).toNat = c.val.toNat := congrArg (fun d => d.val.toNat) heq
    have hsum : (c.val + 32).toNat = (c.val.toNat + 32) % 2 ^ 32 := UInt32.toNat_add _ _
    have hlt : c.val.toNat < 2 ^ 32 := c.val.toNat_lt
    omega
  · next hrange => exact iff_of_true rfl (decide_eq_false hrange)

/-- The characters of a plain text are folded to themselves. -/
theorem toLower_of_plain {c : Char} (h : (c.isLower || c.isDigit || c == '_') = true) :
    c.toLower = c := by
  rw [toLower_eq_self_iff, ← Bool.not_eq_true, isUpper_iff]
  rw [Bool.or_eq_true, Bool.or_eq_true, isLower_iff, isDigit_iff, beq_iff_eq] at h
  rcases h with (h | h) | rfl
  · omega
  · omega
  · decide

/-- An identifier can go on with the characters of a plain text. -/
theorem identCont_of_plain {c : Char} (h : (c.isLower || c.isDigit || c == '_') = true) :
    identCont c = true := by
  unfold identCont identStart Char.isAlpha
  rcases Bool.or_eq_true _ _ ▸ h with h | h
  · rcases Bool.or_eq_true _ _ ▸ h with h | h <;> simp [h]
  · simp [h]

/-- A plain text that fits is an identifier, and stands for itself. -/
theorem identifier_of_plain {cs : List Char} (hplain : isPlain cs = true)
    (hshort : byteSize cs < NAMEDATALEN) : identifier cs = some (String.ofList cs) := by
  unfold isPlain at hplain
  obtain ⟨hhead, hall⟩ := Bool.and_eq_true _ _ ▸ hplain
  rw [List.all_eq_true] at hall
  have hfold : cs.map Char.toLower = cs := by
    calc cs.map Char.toLower
        = cs.map id := List.map_congr_left fun c hc => toLower_of_plain (hall c hc)
      _ = cs := List.map_id cs
  have hstart : cs.head?.any identStart = true := by
    obtain ⟨c, hc, hfirst⟩ := (Option.any_eq_true _ _).mp hhead
    refine (Option.any_eq_true _ _).mpr ⟨c, hc, ?_⟩
    unfold identStart Char.isAlpha
    rcases Bool.or_eq_true _ _ ▸ hfirst with hfirst | hfirst <;> simp [hfirst]
  have hcont : cs.all identCont = true :=
    List.all_eq_true.mpr fun c hc => identCont_of_plain (hall c hc)
  unfold identifier
  rw [hstart, hcont, hfold, clip_eq_self (by unfold NAMEDATALEN at *; omega)]
  rfl

/-- An identifier that stands for itself has no upper case letter. -/
theorem of_identifier_self {cs : List Char} (h : identifier cs = some (String.ofList cs)) :
    cs.head?.any identStart = true ∧ cs.all identCont = true ∧ ∀ c ∈ cs, c.isUpper = false := by
  unfold identifier at h
  split_ifs at h with hident
  obtain ⟨hstart, hcont⟩ := Bool.and_eq_true _ _ ▸ hident
  have hclip : clip (NAMEDATALEN - 1) (cs.map Char.toLower) = cs :=
    String.ofList_injective (Option.some.inj h)
  have hfold : cs.map Char.toLower = cs := by
    have hlength : (clip (NAMEDATALEN - 1) (cs.map Char.toLower)).length =
        (cs.map Char.toLower).length := by
      rw [hclip, List.length_map]
    rw [← eq_of_length_clip hlength, hclip]
  refine ⟨hstart, hcont, fun c hc => toLower_eq_self_iff.mp ?_⟩
  exact List.map_inj_left.mp (hfold.trans (List.map_id cs).symm) c hc

/-- An identifier that stands for itself is plain, if it is in ASCII and has no dollar sign. -/
theorem isPlain_of_identifier {cs : List Char} (h : identifier cs = some (String.ofList cs))
    (hascii : ∀ c ∈ cs, c.toNat < 128 ∧ c ≠ '$') : isPlain cs = true := by
  obtain ⟨hstart, hcont, hupper⟩ := of_identifier_self h
  have hfirst : ∀ c ∈ cs, identStart c = true → (c.isLower || c == '_') = true := by
    intro c hc hstart
    have hlt := (hascii c hc).1
    have hnot : decide (128 ≤ c.toNat) = false := decide_eq_false (by omega)
    unfold identStart Char.isAlpha at hstart
    rwa [hupper c hc, hnot, Bool.or_false, Bool.false_or] at hstart
  unfold isPlain
  rw [Bool.and_eq_true, List.all_eq_true]
  constructor
  · obtain ⟨c, hc, hstart⟩ := (Option.any_eq_true _ _).mp hstart
    exact (Option.any_eq_true _ _).mpr ⟨c, hc, hfirst c (List.mem_of_head? hc) hstart⟩
  · intro c hc
    have hthis := List.all_eq_true.mp hcont c hc
    have hdollar : (c == '$') = false := beq_eq_false_iff_ne.mpr (hascii c hc).2
    unfold identCont at hthis
    rw [hdollar, Bool.or_false, Bool.or_eq_true] at hthis
    rcases hthis with hthis | hthis
    · rcases Bool.or_eq_true _ _ ▸ hfirst c hc hthis with hlower | hunderscore
      · simp [hlower]
      · simp [hunderscore]
    · simp [hthis]

/-- An identifier has no dot. -/
theorem dot_notMem_of_identifier {cs : List Char} {name : String} (h : identifier cs = some name) :
    '.' ∉ cs := by
  unfold identifier at h
  split_ifs at h with hident
  obtain ⟨-, hcont⟩ := Bool.and_eq_true _ _ ▸ hident
  intro hdot
  exact absurd (List.all_eq_true.mp hcont _ hdot) (by decide)

/-- The first of the texts that give these identifiers, and the others. -/
theorem mapM_eq_cons {texts : List (List Char)} {name : String} {names : List String}
    (h : texts.mapM identifier = some (name :: names)) :
    ∃ cs rest, texts = cs :: rest ∧ identifier cs = some name ∧
      rest.mapM identifier = some names := by
  cases texts with
  | nil => exact absurd h (by simp)
  | cons cs rest =>
    rw [List.mapM_cons] at h
    obtain ⟨name', hname, h⟩ := Option.bind_eq_some_iff.mp h
    obtain ⟨names', hnames, h⟩ := Option.bind_eq_some_iff.mp h
    obtain ⟨rfl, rfl⟩ := List.cons.inj (Option.some.inj h)
    exact ⟨cs, rest, rfl, hname, hnames⟩

/-- No identifiers are those of no texts. -/
theorem mapM_eq_nil {texts : List (List Char)} (h : texts.mapM identifier = some []) :
    texts = [] := by
  cases texts with
  | nil => rfl
  | cons cs rest =>
    rw [List.mapM_cons] at h
    obtain ⟨name', -, h⟩ := Option.bind_eq_some_iff.mp h
    obtain ⟨names', -, h⟩ := Option.bind_eq_some_iff.mp h
    exact absurd h (by simp)

/-- Two parts with a dot between them. -/
theorem intercalate_pair (a b : List Char) : ['.'].intercalate [a, b] = a ++ '.' :: b := by
  simp [List.intercalate]

/-- A name that is read as a schema and a function, and is no longer than them, has two parts. -/
theorem parts_of_read {keyword : String → Option KeywordCategory} {database schema name : String}
    {text : List Char} (h : readFunction keyword database text = some (some schema, name))
    (hlength : text.length ≤ schema.toList.length + 1 + name.toList.length) :
    ∃ a b, text = a ++ '.' :: b ∧ identifier a = some schema ∧ identifier b = some name ∧
      isColId keyword schema = true := by
  have htext : ['.'].intercalate (text.splitOn '.') = text := List.intercalate_splitOn '.'
  unfold readFunction at h
  split at h
  · split_ifs at h
    exact absurd h (by simp)
  · next schema' name' hparts =>
    split_ifs at h with hcol
    obtain ⟨hschema, rfl⟩ := Prod.mk.inj (Option.some.inj h)
    obtain rfl := Option.some.inj hschema
    obtain ⟨a, rest, heq, ha, hrest⟩ := mapM_eq_cons hparts
    obtain ⟨b, rest, rfl, hb, hrest⟩ := mapM_eq_cons hrest
    obtain rfl := mapM_eq_nil hrest
    rw [heq, intercalate_pair] at htext
    exact ⟨a, b, htext.symm, ha, hb, hcol⟩
  -- With the database in front, the text is longer than the schema and the function.
  · next catalog schema' name' hparts =>
    split_ifs at h with hcol
    obtain ⟨hschema, rfl⟩ := Prod.mk.inj (Option.some.inj h)
    obtain rfl := Option.some.inj hschema
    obtain ⟨a, rest, heq, ha, hrest⟩ := mapM_eq_cons hparts
    obtain ⟨b, rest, rfl, hb, hrest⟩ := mapM_eq_cons hrest
    obtain ⟨c, rest, rfl, hc, hrest⟩ := mapM_eq_cons hrest
    obtain rfl := mapM_eq_nil hrest
    rw [heq] at htext
    have hsum : text.length = a.length + 1 + (b.length + 1 + c.length) := by
      rw [← htext]
      simp [List.intercalate]
      omega
    have hb' := length_identifier_le hb
    have hc' := length_identifier_le hc
    omega
  · exact absurd h (by simp)

/-- The dotted text of a schema and a function is read as them exactly when both are identifiers
that stand for themselves, and the schema is no keyword that cannot be one. -/
theorem read_dotted_iff {keyword : String → Option KeywordCategory}
    {database schema name : String} :
    readFunction keyword database (schema.toList ++ '.' :: name.toList) =
        some (some schema, name) ↔
      identifier schema.toList = some schema ∧ identifier name.toList = some name ∧
        isColId keyword schema = true := by
  constructor
  · intro h
    have hlength : (schema.toList ++ '.' :: name.toList).length ≤
        schema.toList.length + 1 + name.toList.length := by
      rw [List.length_append, List.length_cons]
      omega
    obtain ⟨a, b, htext, ha, hb, hcol⟩ := parts_of_read h hlength
    -- The parts are no shorter than the names, so they are the names.
    have ha' := length_identifier_le ha
    have hb' := length_identifier_le hb
    have hsum := congrArg List.length htext
    rw [List.length_append, List.length_append, List.length_cons, List.length_cons] at hsum
    obtain ⟨rfl, htail⟩ := List.append_inj htext (by omega)
    obtain ⟨-, rfl⟩ := List.cons.inj htail
    exact ⟨ha, hb, hcol⟩
  · rintro ⟨hschema, hname, hcol⟩
    have hsplit : (schema.toList ++ '.' :: name.toList).splitOn '.' =
        [schema.toList, name.toList] := by
      have hdots : ∀ cs ∈ [schema.toList, name.toList], '.' ∉ cs := by
        intro cs hmem
        rcases List.mem_cons.mp hmem with rfl | hmem
        · exact dot_notMem_of_identifier hschema
        · rw [List.mem_singleton.mp hmem]
          exact dot_notMem_of_identifier hname
      rw [← intercalate_pair]
      exact List.splitOn_intercalate '.' hdots (by simp)
    have hparts : [schema.toList, name.toList].mapM identifier = some [schema, name] := by
      simp [hschema, hname]
    unfold readFunction
    rw [hsplit, hparts]
    exact if_pos hcol

/-! ## Writing -/

/-- A name that needs no quotes is written as it is. -/
theorem quoteIdentifier_of_safe {keyword : String → Option KeywordCategory} {name : String}
    (h : isSafe keyword name = true) : quoteIdentifier keyword name = name := if_pos h

/-- Another name is written with a double quote in front. -/
theorem quoteIdentifier_of_not_safe {keyword : String → Option KeywordCategory} {name : String}
    (h : isSafe keyword name = false) :
    ∃ rest, (quoteIdentifier keyword name).toList = '"' :: rest := by
  unfold quoteIdentifier
  rw [if_neg (by simp [h]), String.toList_append, String.toList_append]
  exact ⟨_, rfl⟩

/-- The characters of a name that needs no quotes. -/
theorem mem_of_safe {keyword : String → Option KeywordCategory} {name : String}
    (h : isSafe keyword name = true) {c : Char} (hc : c ∈ name.toList) :
    (c.isLower || c.isDigit || c == '_') = true := by
  have hplain := (Bool.and_eq_true _ _ ▸ h).1
  exact List.all_eq_true.mp (Bool.and_eq_true _ _ ▸ hplain).2 c hc

/-- What stands behind the first delimiter does not matter. -/
theorem splitPart_append (text rest : String) :
    splitPart (text ++ "(" ++ rest) '(' = splitPart text '(' := by
  unfold splitPart
  congr 1
  rw [String.toList_append, String.toList_append, List.append_assoc]
  induction text.toList with
  | nil => rfl
  | cons c cs ih =>
    rw [List.cons_append, List.takeWhile_cons, List.takeWhile_cons, ih]

/-- A text without the delimiter is its own first part. -/
theorem splitPart_of_notMem {text : String} {delimiter : Char} (h : delimiter ∉ text.toList) :
    splitPart text delimiter = text := by
  have hall : ∀ c ∈ text.toList, decide (c ≠ delimiter) = true := by
    intro c hc
    rw [decide_eq_true_iff]
    rintro rfl
    exact h hc
  unfold splitPart
  rw [List.takeWhile_eq_self_iff.mpr hall, String.ofList_toList]

/-- Names that need no quotes are written as they are, and have no parenthesis. -/
theorem splitPart_quoteQualified {keyword : String → Option KeywordCategory} {schema name : String}
    (hschema : isSafe keyword schema = true) (hname : isSafe keyword name = true) :
    splitPart (quoteQualified keyword schema name) '(' = schema ++ "." ++ name := by
  unfold quoteQualified
  rw [quoteIdentifier_of_safe hschema, quoteIdentifier_of_safe hname]
  refine splitPart_of_notMem fun hparen => ?_
  rw [String.toList_append, String.toList_append, List.mem_append, List.mem_append] at hparen
  rcases hparen with (hparen | hparen) | hparen
  · exact absurd (mem_of_safe hschema hparen) (by decide)
  · exact absurd hparen (by decide)
  · exact absurd (mem_of_safe hname hparen) (by decide)

/-- When a name needs quotes, the first part has a double quote. -/
theorem quote_mem_splitPart {keyword : String → Option KeywordCategory} {schema name : String}
    (h : isSafe keyword schema = true → isSafe keyword name = false) :
    '"' ∈ (splitPart (quoteQualified keyword schema name) '(').toList := by
  unfold splitPart quoteQualified
  rw [String.toList_ofList, String.toList_append, String.toList_append]
  cases hschema : isSafe keyword schema with
  | false =>
    obtain ⟨rest, hrest⟩ := quoteIdentifier_of_not_safe hschema
    rw [hrest]
    exact List.mem_cons_self
  | true =>
    obtain ⟨rest, hrest⟩ := quoteIdentifier_of_not_safe (h hschema)
    have hall : ∀ c ∈ schema.toList ++ ".".toList, decide (c ≠ '(') = true := by
      intro c hc
      rw [decide_eq_true_iff]
      rintro rfl
      rcases List.mem_append.mp hc with hc | hc
      · exact absurd (mem_of_safe hschema hc) (by decide)
      · exact absurd hc (by decide)
    rw [quoteIdentifier_of_safe hschema, hrest, List.takeWhile_append_of_pos hall]
    exact List.mem_append_right _ List.mem_cons_self

/-- A dotted text with a part without dots on either side is split in one way. -/
theorem dotted_inj {a b c d : List Char} (h : a ++ '.' :: b = c ++ '.' :: d) (hc : '.' ∉ c)
    (hd : '.' ∉ d) : a = c ∧ b = d := by
  have hsplit := congrArg (List.splitOn '.') h
  rw [List.splitOn_append_cons_self, List.splitOn_append_cons_self,
    List.splitOn_eq_singleton hc, List.splitOn_eq_singleton hd] at hsplit
  -- The left side has two parts in all, so it has one on either side of the dot.
  have hlength := congrArg List.length hsplit
  have ha := List.length_pos_iff.mpr (List.splitOn_ne_nil '.' a)
  have hb := List.length_pos_iff.mpr (List.splitOn_ne_nil '.' b)
  rw [List.length_append, List.length_append, List.length_singleton, List.length_singleton]
    at hlength
  have hone : (a.splitOn '.').length = [c].length := by
    rw [List.length_singleton]
    omega
  obtain ⟨hac, hbd⟩ := List.append_inj hsplit hone
  have hjoin : ['.'].intercalate (a.splitOn '.') = a := List.intercalate_splitOn '.'
  have hjoin' : ['.'].intercalate (b.splitOn '.') = b := List.intercalate_splitOn '.'
  rw [hac, List.intercalate_singleton] at hjoin
  rw [hbd, List.intercalate_singleton] at hjoin'
  exact ⟨hjoin.symm, hjoin'.symm⟩

end PgNats.Sql
