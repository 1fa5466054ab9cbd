import Mathlib.Data.List.AList
import Mathlib.Data.Multiset.AddSub

/-!
# Rust's hash maps and sets

`HashMap` is Mathlib's association list without duplicate keys, and `HashSet` a list without
duplicates, whose order stands for the unspecified iteration order. `HashMap.mapAccum` is a loop
`for (key, value) in &mut map` that replaces each value and threads a state, and `HashSet.retain`
visits each element once and keeps those that the visit accepts. `HashMap.bag` forgets the keys: it
is the multiset of the values, which an insertion or an erasure changes by one value.
-/

namespace PgNats

/-- `std::collections::HashMap`. -/
abbrev HashMap (κ β : Type) := AList fun _ : κ => β

namespace HashMap

variable {κ β γ σ : Type}

/-- The loop of `mapAccum`, over the entries. -/
def mapAccumEntries (f : σ → κ → β → σ × γ) :
    σ → List (Sigma fun _ : κ => β) → σ × List (Sigma fun _ : κ => γ)
  | s, [] => (s, [])
  | s, ⟨k, v⟩ :: entries =>
    let (s, v) := f s k v
    let (s, entries) := mapAccumEntries f s entries
    (s, ⟨k, v⟩ :: entries)

/-- The loop changes no key. -/
theorem keys_mapAccumEntries (f : σ → κ → β → σ × γ) :
    ∀ (s : σ) (entries : List (Sigma fun _ : κ => β)),
      (mapAccumEntries f s entries).2.keys = entries.keys
  | _, [] => rfl
  | s, ⟨k, v⟩ :: entries => by
    rw [List.keys_cons, ← keys_mapAccumEntries f (f s k v).1 entries]
    rfl

/-- `for (key, value) in &mut map`: each value is replaced, and a state passes through. -/
def mapAccum (f : σ → κ → β → σ × γ) (s : σ) (m : HashMap κ β) : σ × HashMap κ γ :=
  let result := mapAccumEntries f s m.entries
  (result.1, ⟨result.2, by
    rw [List.NodupKeys, keys_mapAccumEntries]
    exact m.nodupKeys⟩)

/-- The values of the map. -/
def values (m : HashMap κ β) : List β := m.entries.map fun e => e.2

/-- The loop over an empty map does nothing. -/
@[simp] theorem mapAccum_empty (f : σ → κ → β → σ × γ) (s : σ) :
    mapAccum f s (∅ : HashMap κ β) = (s, ∅) := rfl

/-- What each step of the loop keeps of the state, the loop keeps. -/
theorem mapAccum_state {f : σ → κ → β → σ × γ} (inv : σ → Prop)
    (hf : ∀ s k v, inv s → inv (f s k v).1) {s : σ} (hs : inv s) (m : HashMap κ β) :
    inv (mapAccum f s m).1 := by
  have h : ∀ (entries : List (Sigma fun _ : κ => β)) (s : σ), inv s →
      inv (mapAccumEntries f s entries).1 := by
    intro entries
    induction entries with
    | nil => exact fun _ hs => hs
    | cons e entries ih => exact fun s hs => ih (f s e.1 e.2).1 (hf s e.1 e.2 hs)
  exact h m.entries s hs

/-- The empty map has no values. -/
@[simp] theorem values_empty : values (∅ : HashMap κ β) = [] := rfl

/-- The values of the map, each as often as it is there. -/
def bag (m : HashMap κ β) : Multiset β := m.values

/-- The empty map has no values. -/
@[simp] theorem bag_empty : bag (∅ : HashMap κ β) = 0 := rfl

variable [DecidableEq κ]

/-- What the loop does not change about the values, it does not change about the map. -/
theorem lookup_mapAccum_map {δ : Type} (f : σ → κ → β → σ × γ) (g : β → δ) (g' : γ → δ)
    (hf : ∀ s k v, g' (f s k v).2 = g v) (s : σ) (m : HashMap κ β) (k : κ) :
    ((mapAccum f s m).2.lookup k).map g' = (m.lookup k).map g := by
  obtain ⟨entries, hnodup⟩ := m
  show (List.dlookup k (mapAccumEntries f s entries).2).map g' = (List.dlookup k entries).map g
  clear hnodup
  induction entries generalizing s with
  | nil => rfl
  | cons e entries ih =>
    obtain ⟨k', v⟩ := e
    unfold mapAccumEntries
    dsimp only
    rcases eq_or_ne k k' with rfl | hne
    · rw [List.dlookup_cons_eq, List.dlookup_cons_eq, Option.map_some, Option.map_some, hf]
    · rw [List.dlookup_cons_ne _ _ hne, List.dlookup_cons_ne _ _ hne]
      exact ih _

/-- The values of a map are those that its keys look up. -/
theorem mem_values_iff {m : HashMap κ β} {v : β} : v ∈ m.values ↔ ∃ k, m.lookup k = some v := by
  unfold values
  rw [List.mem_map]
  constructor
  · rintro ⟨⟨k, w⟩, hmem, rfl⟩
    exact ⟨k, AList.mem_lookup_iff.mpr hmem⟩
  · rintro ⟨k, hk⟩
    exact ⟨⟨k, v⟩, AList.mem_lookup_iff.mp hk, rfl⟩

/-- What a key looks up after an insertion is the inserted value, or it was there. -/
theorem lookup_insert_eq_some {m : HashMap κ β} {k k' : κ} {v w : β}
    (h : (m.insert k v).lookup k' = some w) : (k' = k ∧ w = v) ∨ m.lookup k' = some w := by
  rcases eq_or_ne k' k with rfl | hne
  · rw [AList.lookup_insert] at h
    exact Or.inl ⟨rfl, (Option.some.inj h).symm⟩
  · rw [AList.lookup_insert_ne hne] at h
    exact Or.inr h

/-- What a key looks up after an erasure was there, for another key. -/
theorem lookup_erase_eq_some {m : HashMap κ β} {k k' : κ} {w : β}
    (h : (m.erase k).lookup k' = some w) : k' ≠ k ∧ m.lookup k' = some w := by
  rcases eq_or_ne k' k with rfl | hne
  · rw [AList.lookup_erase] at h
    exact absurd h (by simp)
  · rw [AList.lookup_erase_ne hne] at h
    exact ⟨hne, h⟩

/-- An insertion changes no key of a value that it neither inserts nor replaces. -/
theorem lookup_insert_iff {m : HashMap κ β} {k k' : κ} {v w : β} (hold : m.lookup k ≠ some w)
    (hnew : v ≠ w) : (m.insert k v).lookup k' = some w ↔ m.lookup k' = some w := by
  rcases eq_or_ne k' k with rfl | hne
  · rw [AList.lookup_insert]
    exact iff_of_false (fun heq => hnew (Option.some.inj heq)) hold
  · rw [AList.lookup_insert_ne hne]

/-- An erasure changes no key of a value that it does not remove. -/
theorem lookup_erase_iff {m : HashMap κ β} {k k' : κ} {w : β} (hold : m.lookup k ≠ some w) :
    (m.erase k).lookup k' = some w ↔ m.lookup k' = some w := by
  rcases eq_or_ne k' k with rfl | hne
  · rw [AList.lookup_erase]
    exact iff_of_false (by simp) hold
  · rw [AList.lookup_erase_ne hne]

/-- A value of a map with an insertion is the inserted one or was there. -/
theorem mem_values_insert {m : HashMap κ β} {k : κ} {v w : β} (h : w ∈ values (m.insert k v)) :
    w = v ∨ w ∈ m.values := by
  obtain ⟨k', hk'⟩ := mem_values_iff.mp h
  rcases lookup_insert_eq_some hk' with ⟨-, hw⟩ | hold
  · exact Or.inl hw
  · exact Or.inr (mem_values_iff.mpr ⟨k', hold⟩)

/-- A value of a map with an erasure was there. -/
theorem mem_values_erase {m : HashMap κ β} {k : κ} {w : β} (h : w ∈ values (m.erase k)) :
    w ∈ m.values := by
  obtain ⟨k', hk'⟩ := mem_values_iff.mp h
  exact mem_values_iff.mpr ⟨k', (lookup_erase_eq_some hk').2⟩

/-- A value that a key looks up is in the bag, and the rest is the bag after the erasure. -/
theorem bag_erase {m : HashMap κ β} {k : κ} {v : β} (h : m.lookup k = some v) :
    m.bag = v ::ₘ bag (m.erase k) := by
  obtain ⟨entries, hnodup⟩ := m
  show (↑(entries.map fun e => e.2) : Multiset β) = ↑(v :: (List.kerase k entries).map fun e => e.2)
  replace h : List.dlookup k entries = some v := h
  clear hnodup
  rw [Multiset.coe_eq_coe]
  induction entries with
  | nil => exact absurd h (by simp)
  | cons e entries ih =>
    obtain ⟨k', w⟩ := e
    rcases eq_or_ne k k' with rfl | hne
    · rw [List.dlookup_cons_eq] at h
      have herase : List.kerase k (⟨k, w⟩ :: entries) = entries := List.kerase_cons_eq rfl
      rw [herase, ← Option.some.inj h]
      rfl
    · rw [List.dlookup_cons_ne _ _ hne] at h
      have herase : List.kerase k (⟨k', w⟩ :: entries) = ⟨k', w⟩ :: List.kerase k entries :=
        List.kerase_cons_ne hne
      rw [herase, List.map_cons, List.map_cons]
      exact ((ih h).cons w).trans (List.Perm.swap v w _)

/-- An insertion adds its value to what an erasure leaves. -/
theorem bag_insert_eq_erase (m : HashMap κ β) (k : κ) (v : β) :
    bag (m.insert k v) = v ::ₘ bag (m.erase k) := by
  unfold bag values
  rw [AList.entries_insert]
  rfl

/-- An insertion at a new key adds its value. -/
theorem bag_insert {m : HashMap κ β} {k : κ} (h : m.lookup k = none) (v : β) :
    bag (m.insert k v) = v ::ₘ m.bag := by
  have herase : m.erase k = m := by
    ext1
    exact List.kerase_of_notMem_keys (List.dlookup_eq_none.mp h)
  rw [bag_insert_eq_erase, herase]

/-- An insertion at a key that is there replaces its value. -/
theorem bag_insert_of_lookup {m : HashMap κ β} {k : κ} {w : β} (h : m.lookup k = some w) (v : β) :
    w ::ₘ bag (m.insert k v) = v ::ₘ m.bag := by
  rw [bag_insert_eq_erase, bag_erase h, Multiset.cons_swap]

/-- No value gave way to another one at its key. -/
def NotReplaced (m m' : HashMap κ β) : Prop :=
  ∀ k v v', m.lookup k = some v → m'.lookup k = some v' → v' = v

/-- A map as it was. -/
theorem NotReplaced.refl (m : HashMap κ β) : NotReplaced m m :=
  fun _ _ _ h h' => Option.some.inj (h'.symm.trans h)

/-- An insertion at a new key. -/
theorem NotReplaced.insert {m : HashMap κ β} {k : κ} (hk : m.lookup k = none) (v : β) :
    NotReplaced m (m.insert k v) := by
  intro k' w w' h h'
  rcases lookup_insert_eq_some h' with ⟨rfl, rfl⟩ | hold
  · exact absurd (hk.symm.trans h) (by simp)
  · exact NotReplaced.refl m k' w w' h hold

/-- An erasure. -/
theorem NotReplaced.erase (m : HashMap κ β) (k : κ) : NotReplaced m (m.erase k) :=
  fun k' w w' h h' => NotReplaced.refl m k' w w' h (lookup_erase_eq_some h').2

/-- A map that is emptied. -/
theorem NotReplaced.empty (m : HashMap κ β) : NotReplaced m ∅ :=
  fun _ _ _ _ h' => absurd h' (by simp)

end HashMap

/-- `std::collections::HashSet`. -/
structure HashSet (α : Type) where
  /-- The elements, in iteration order. -/
  elems : List α
  /-- No element is there twice. -/
  nodup : elems.Nodup
  deriving DecidableEq, Repr

namespace HashSet

variable {α : Type}

instance : Membership α (HashSet α) := ⟨fun s a => a ∈ s.elems⟩

/-- `HashSet::from([a])`. -/
def singleton (a : α) : HashSet α := ⟨[a], List.nodup_singleton a⟩

/-- `HashSet::is_empty`. -/
def isEmpty (s : HashSet α) : Bool := s.elems.isEmpty

/-- The loop of `retain`, over the elements. -/
def retainElems {σ : Type} (f : σ → α → σ × Bool) : σ → List α → σ × List α
  | s, [] => (s, [])
  | s, a :: as =>
    let (s, keep) := f s a
    let (s, as) := retainElems f s as
    (s, if keep then a :: as else as)

/-- The loop only leaves elements out. -/
theorem retainElems_sublist {σ : Type} (f : σ → α → σ × Bool) :
    ∀ (s : σ) (as : List α), (retainElems f s as).2.Sublist as
  | _, [] => List.Sublist.slnil
  | s, a :: as => by
    have ih := retainElems_sublist f (f s a).1 as
    unfold retainElems
    dsimp only
    split_ifs
    · exact ih.cons_cons a
    · exact ih.cons a

/-- `HashSet::retain`, with a closure that changes a state. -/
def retain {σ : Type} (f : σ → α → σ × Bool) (s : σ) (set : HashSet α) : σ × HashSet α :=
  let result := retainElems f s set.elems
  (result.1, ⟨result.2, (retainElems_sublist f s set.elems).nodup set.nodup⟩)

/-- The members of a set with one element. -/
@[simp] theorem mem_singleton {a b : α} : b ∈ singleton a ↔ b = a := List.mem_singleton

/-- An empty set has no elements. -/
theorem isEmpty_iff {s : HashSet α} : s.isEmpty = true ↔ ∀ a, a ∉ s := by
  unfold isEmpty
  rw [List.isEmpty_iff, List.eq_nil_iff_forall_not_mem]
  rfl

/-- What the closure keeps of the state, the loop keeps. -/
theorem retain_state {σ : Type} {f : σ → α → σ × Bool} {inv : σ → Prop}
    (hf : ∀ s a, inv s → inv (f s a).1) {s : σ} (hs : inv s) (set : HashSet α) :
    inv (retain f s set).1 := by
  have h : ∀ (as : List α) (s : σ), inv s → inv (retainElems f s as).1 := by
    intro as
    induction as with
    | nil => exact fun _ hs => hs
    | cons a as ih => exact fun s hs => ih (f s a).1 (hf s a hs)
  exact h set.elems s hs

/-- The loop of `retain` visits the elements in order. -/
theorem retain_fst {σ : Type} (f : σ → α → σ × Bool) (s : σ) (set : HashSet α) :
    (retain f s set).1 = set.elems.foldl (fun s a => (f s a).1) s := by
  have h : ∀ (as : List α) (s : σ),
      (retainElems f s as).1 = as.foldl (fun s a => (f s a).1) s := by
    intro as
    induction as with
    | nil => exact fun _ => rfl
    | cons a as ih => exact fun s => ih (f s a).1
  exact h set.elems s

/-- What is kept, when the closure's answer for an element does not depend on the state. -/
theorem mem_retain {σ : Type} {f : σ → α → σ × Bool} {keep : α → Bool}
    (hf : ∀ s a, (f s a).2 = keep a) (s : σ) (set : HashSet α) (a : α) :
    a ∈ (retain f s set).2 ↔ a ∈ set ∧ keep a = true := by
  have h : ∀ (as : List α) (s : σ), (retainElems f s as).2 = as.filter keep := by
    intro as
    induction as with
    | nil => exact fun _ => rfl
    | cons b as ih =>
      intro s
      unfold retainElems
      dsimp only
      rw [hf, ih, List.filter_cons]
  show a ∈ (retainElems f s set.elems).2 ↔ _
  rw [h, List.mem_filter]
  rfl

variable [DecidableEq α]

/-- `HashSet::insert`. -/
def insert (a : α) (s : HashSet α) : HashSet α := ⟨s.elems.insert a, s.nodup.insert⟩

/-- `HashSet::remove`. -/
def remove (a : α) (s : HashSet α) : HashSet α := ⟨s.elems.erase a, s.nodup.erase a⟩

instance (a : α) (s : HashSet α) : Decidable (a ∈ s) := inferInstanceAs (Decidable (a ∈ s.elems))

@[simp] theorem mem_insert {a b : α} {s : HashSet α} : b ∈ s.insert a ↔ b = a ∨ b ∈ s :=
  List.mem_insert_iff

@[simp] theorem mem_remove {a b : α} {s : HashSet α} : b ∈ s.remove a ↔ b ≠ a ∧ b ∈ s :=
  s.nodup.mem_erase_iff

end HashSet

/-- The first element, if the function accepts it, and then the others. -/
theorem filterMap_cons_toList {α β : Type} (f : α → Option β) (a : α) (l : List α) :
    (a :: l).filterMap f = (f a).toList ++ l.filterMap f := by
  cases hf : f a with
  | none => rw [List.filterMap_cons_none hf]; rfl
  | some b => rw [List.filterMap_cons_some hf]; rfl

end PgNats
