/-!
# Maps keyed by text

A `KeyMap` is a finite map from strings to values, held as its entries in
strictly increasing key order (the order of code points).  The order is part of
the type, so two maps with the same look-ups are equal and every traversal is
deterministic.

Main statements: `get?_insert`, `get?_foldl_insert`, `get?_erase` and `get?_filter`
say what each operation does to look-ups, `ext_get?` says that look-ups determine the
map, and `ofList_of_perm` that a map is built from its entries in any order.
-/

namespace ControlLoop

universe u v

/-- A finite map from strings, with its entries in increasing key order. -/
structure KeyMap (α : Type u) where
  /-- The entries, smallest key first. -/
  entries : List (String × α)
  /-- Keys increase strictly, so none occurs twice. -/
  sorted : (entries.map Prod.fst).Pairwise (· < ·)
  deriving DecidableEq, Repr

namespace KeyMap

variable {α : Type u} {β : Type v}

/-- Put an entry into an ordered entry list, replacing one with the same key. -/
def insertEntry (key : String) (value : α) :
    List (String × α) → List (String × α)
  | [] => [(key, value)]
  | (other, held) :: rest =>
      if key < other then (key, value) :: (other, held) :: rest
      else if key = other then (key, value) :: rest
      else (other, held) :: insertEntry key value rest

/-- First value with the given key. -/
def lookup (key : String) : List (String × α) → Option α
  | [] => none
  | (other, held) :: rest => if key = other then some held else lookup key rest

theorem mem_keys_insertEntry {key name : String} {value : α}
    {entries : List (String × α)} :
    name ∈ (insertEntry key value entries).map Prod.fst ↔
      name = key ∨ name ∈ entries.map Prod.fst := by
  induction entries with
  | nil => simp [insertEntry]
  | cons entry rest ih =>
      obtain ⟨other, held⟩ := entry
      simp only [insertEntry]
      split
      · simp
      · split
        next same => subst same; simp
        next => simp only [List.map_cons, List.mem_cons, ih]; grind

/-- Two strings of which neither is smaller are equal. -/
theorem eq_of_not_lt {a b : String} (notLess : ¬a < b) (notGreater : ¬b < a) :
    a = b :=
  String.le_antisymm (String.not_lt.1 notGreater) (String.not_lt.1 notLess)

theorem sorted_insertEntry {key : String} {value : α}
    {entries : List (String × α)}
    (sorted : (entries.map Prod.fst).Pairwise (· < ·)) :
    ((insertEntry key value entries).map Prod.fst).Pairwise (· < ·) := by
  induction entries with
  | nil => simp [insertEntry]
  | cons entry rest ih =>
      obtain ⟨other, held⟩ := entry
      simp only [List.map_cons, List.pairwise_cons] at sorted
      simp only [insertEntry]
      split
      next less =>
        simp only [List.map_cons, List.pairwise_cons, List.mem_cons]
        exact ⟨fun name member => member.elim (fun same => same ▸ less)
          (fun later => String.lt_trans less (sorted.1 name later)), sorted⟩
      next notLess =>
        split
        next same => subst same; simpa [List.pairwise_cons] using sorted
        next different =>
          simp only [List.map_cons, List.pairwise_cons]
          refine ⟨fun name member => ?_, ih sorted.2⟩
          rcases mem_keys_insertEntry.1 member with same | later
          · subst same
            exact Decidable.byContradiction fun notGreater =>
              different (eq_of_not_lt notLess notGreater)
          · exact sorted.1 name later

/-- The map without entries. -/
def empty : KeyMap α := ⟨[], .nil⟩

instance : EmptyCollection (KeyMap α) := ⟨empty⟩

instance : Inhabited (KeyMap α) := ⟨empty⟩

/-- Bind a key to a value, replacing an earlier binding. -/
def insert (map : KeyMap α) (key : String) (value : α) : KeyMap α :=
  ⟨insertEntry key value map.entries, sorted_insertEntry map.sorted⟩

/-- The value bound to a key. -/
def get? (map : KeyMap α) (key : String) : Option α :=
  lookup key map.entries

/-- Whether a key is bound. -/
def contains (map : KeyMap α) (key : String) : Bool :=
  (map.get? key).isSome

/-- The keys, smallest first. -/
def keys (map : KeyMap α) : List String :=
  map.entries.map Prod.fst

/-- The number of entries. -/
def size (map : KeyMap α) : Nat :=
  map.entries.length

/-- Whether no key is bound. -/
def isEmpty (map : KeyMap α) : Bool :=
  map.entries.isEmpty

/-- Keep the entries that pass a test. -/
def filter (map : KeyMap α) (keep : String → α → Bool) : KeyMap α :=
  ⟨map.entries.filter fun entry => keep entry.1 entry.2,
    map.sorted.sublist (List.Sublist.map _ List.filter_sublist)⟩

/-- Remove a key. -/
def erase (map : KeyMap α) (key : String) : KeyMap α :=
  map.filter fun name _ => name != key

/-- Apply a function to every value. -/
def map (image : α → β) (map : KeyMap α) : KeyMap β :=
  ⟨map.entries.map fun entry => (entry.1, image entry.2), by
    simpa [Function.comp_def] using map.sorted⟩

/-- Bind the pairs one after another; the last pair of a key wins. -/
def ofList (pairs : List (String × α)) : KeyMap α :=
  pairs.foldl (fun map pair => map.insert pair.1 pair.2) empty

/-! ## Look-ups -/

theorem lookup_eq_none_iff {key : String} {entries : List (String × α)} :
    lookup key entries = none ↔ key ∉ entries.map Prod.fst := by
  induction entries with
  | nil => simp [lookup]
  | cons entry rest ih =>
      obtain ⟨other, held⟩ := entry
      by_cases same : key = other <;> simp [lookup, same, ih]

theorem lookup_insertEntry {key name : String} {value : α}
    {entries : List (String × α)} :
    lookup name (insertEntry key value entries) =
      if name = key then some value else lookup name entries := by
  induction entries with
  | nil => rfl
  | cons entry rest ih =>
      obtain ⟨other, held⟩ := entry
      simp only [insertEntry]
      split
      · rfl
      · split
        next same => subst same; simp only [lookup]; split <;> rfl
        next => simp only [lookup, ih]; grind

@[simp] theorem get?_empty (key : String) : (empty : KeyMap α).get? key = none :=
  rfl

@[simp] theorem get?_insert (map : KeyMap α) (key name : String) (value : α) :
    (map.insert key value).get? name =
      if name = key then some value else map.get? name :=
  lookup_insertEntry

theorem lookup_filter {entries : List (String × α)} {keep : String → α → Bool}
    (sorted : (entries.map Prod.fst).Pairwise (· < ·)) (key : String) :
    lookup key (entries.filter fun entry => keep entry.1 entry.2) =
      (lookup key entries).filter (keep key) := by
  induction entries with
  | nil => rfl
  | cons entry rest ih =>
      obtain ⟨other, held⟩ := entry
      simp only [List.map_cons, List.pairwise_cons] at sorted
      by_cases kept : keep other held
      · by_cases same : key = other
        · subst same; simp [lookup, kept, Option.filter]
        · simp [lookup, kept, same, ih sorted.2]
      · by_cases same : key = other
        · subst same
          have absent : lookup key rest = none :=
            lookup_eq_none_iff.2 fun member =>
              String.lt_irrefl key (sorted.1 key member)
          simp [lookup, kept, ih sorted.2, absent, Option.filter]
        · simp [lookup, kept, same, ih sorted.2]

@[simp] theorem get?_filter (map : KeyMap α) (keep : String → α → Bool)
    (key : String) :
    (map.filter keep).get? key = (map.get? key).filter (keep key) :=
  lookup_filter map.sorted key

@[simp] theorem get?_erase (map : KeyMap α) (key name : String) :
    (map.erase key).get? name = if name = key then none else map.get? name := by
  by_cases same : name = key <;> cases found : map.get? name <;>
    simp_all [erase, Option.filter]

@[simp] theorem get?_map (map : KeyMap α) (image : α → β) (key : String) :
    (map.map image).get? key = (map.get? key).map image := by
  obtain ⟨entries, sorted⟩ := map
  show lookup key (entries.map _) = (lookup key entries).map image
  clear sorted
  induction entries with
  | nil => rfl
  | cons entry rest ih =>
      obtain ⟨other, held⟩ := entry
      by_cases same : key = other <;> simp_all [lookup]

theorem get?_eq_none_iff {map : KeyMap α} {key : String} :
    map.get? key = none ↔ key ∉ map.keys :=
  lookup_eq_none_iff

theorem mem_keys_iff {map : KeyMap α} {key : String} :
    key ∈ map.keys ↔ (map.get? key).isSome = true := by
  rw [← Decidable.not_iff_not, ← get?_eq_none_iff]
  simp

theorem lookup_eq (key : String) (entries : List (String × α)) :
    lookup key entries = entries.lookup key := by
  induction entries with
  | nil => rfl
  | cons entry rest ih =>
      obtain ⟨other, held⟩ := entry
      by_cases same : key = other
      · simp [lookup, same]
      · simp [lookup, List.lookup_cons, beq_eq_false_iff_ne.2 same, same, ih]

theorem mem_of_lookup {key : String} {value : α} {entries : List (String × α)}
    (found : lookup key entries = some value) : (key, value) ∈ entries := by
  rw [lookup_eq, List.lookup_eq_some_iff] at found
  obtain ⟨before, after, rfl, -⟩ := found
  exact List.mem_append_right before List.mem_cons_self

theorem lookup_eq_some_iff {key : String} {value : α} {entries : List (String × α)}
    (distinct : (entries.map Prod.fst).Nodup) :
    lookup key entries = some value ↔ (key, value) ∈ entries := by
  induction entries with
  | nil => simp [lookup]
  | cons entry rest ih =>
      obtain ⟨other, held⟩ := entry
      rw [List.map_cons, List.nodup_cons] at distinct
      by_cases same : key = other
      · subst same
        have absent : (key, value) ∉ rest := fun member =>
          distinct.1 (List.mem_map.2 ⟨_, member, rfl⟩)
        simp [lookup, absent, eq_comm]
      · simp [lookup, same, ih distinct.2]

theorem nodup_keys (map : KeyMap α) : map.keys.Nodup :=
  List.Pairwise.imp String.ne_of_lt map.sorted

theorem get?_eq_some_iff {map : KeyMap α} {key : String} {value : α} :
    map.get? key = some value ↔ (key, value) ∈ map.entries :=
  lookup_eq_some_iff map.nodup_keys

theorem lookup_append {key : String} {entries others : List (String × α)} :
    lookup key (entries ++ others) = (lookup key entries).or (lookup key others) := by
  induction entries with
  | nil => rfl
  | cons entry rest ih =>
      obtain ⟨other, held⟩ := entry
      by_cases same : key = other <;> simp [lookup, same, ih]

/-- Of pairs that are bound one after another, the last one of a key wins. -/
theorem get?_foldl_insert (pairs : List (String × α)) (map : KeyMap α) (key : String) :
    (pairs.foldl (fun map pair => map.insert pair.1 pair.2) map).get? key =
      (lookup key pairs.reverse).or (map.get? key) := by
  induction pairs generalizing map with
  | nil => rfl
  | cons pair rest ih =>
      rw [List.foldl_cons, ih, get?_insert, List.reverse_cons, lookup_append, Option.or_assoc]
      by_cases same : key = pair.1 <;> simp [lookup, same]

theorem get?_ofList (pairs : List (String × α)) (key : String) :
    (ofList pairs).get? key = lookup key pairs.reverse := by
  rw [ofList, get?_foldl_insert, get?_empty, Option.or_none]

/-- Every entry of a map built from pairs is one of the pairs. -/
theorem mem_of_mem_ofList {pairs : List (String × α)} {entry : String × α}
    (member : entry ∈ (ofList pairs).entries) : entry ∈ pairs := by
  have found : (ofList pairs).get? entry.1 = some entry.2 := get?_eq_some_iff.2 member
  rw [get?_ofList] at found
  exact List.mem_reverse.1 (mem_of_lookup found)

theorem isEmpty_iff {map : KeyMap α} :
    map.isEmpty = true ↔ ∀ key, map.get? key = none := by
  rw [isEmpty, List.isEmpty_iff]
  constructor
  · intro noEntries key
    rw [get?, noEntries]
    rfl
  · intro unbound
    refine List.eq_nil_iff_forall_not_mem.2 fun entry member => ?_
    have bound : map.get? entry.1 = some entry.2 := get?_eq_some_iff.2 member
    rw [unbound] at bound
    cases bound

theorem entries_eq_of_lookup {left right : List (String × α)}
    (sortedLeft : (left.map Prod.fst).Pairwise (· < ·))
    (sortedRight : (right.map Prod.fst).Pairwise (· < ·))
    (same : ∀ key, lookup key left = lookup key right) : left = right := by
  induction left generalizing right with
  | nil =>
      cases right with
      | nil => rfl
      | cons entry rest => simpa [lookup] using same entry.1
  | cons entry rest ih =>
      obtain ⟨key, value⟩ := entry
      cases right with
      | nil => simpa [lookup] using same key
      | cons entry' rest' =>
          obtain ⟨key', value'⟩ := entry'
          simp only [List.map_cons, List.pairwise_cons] at sortedLeft sortedRight
          have keysEqual : key = key' := by
            refine eq_of_not_lt (fun less => ?_) (fun less => ?_)
            · have absent : lookup key ((key', value') :: rest') = none :=
                lookup_eq_none_iff.2 fun member => by
                  rcases List.mem_cons.1 member with equal | later
                  · exact String.lt_irrefl _ (equal ▸ less)
                  · exact String.lt_irrefl _
                      (String.lt_trans less (sortedRight.1 key later))
              rw [← same key] at absent
              simp [lookup] at absent
            · have absent : lookup key' ((key, value) :: rest) = none :=
                lookup_eq_none_iff.2 fun member => by
                  rcases List.mem_cons.1 member with equal | later
                  · exact String.lt_irrefl _ (equal ▸ less)
                  · exact String.lt_irrefl _
                      (String.lt_trans less (sortedLeft.1 key' later))
              rw [same key'] at absent
              simp [lookup] at absent
          subst keysEqual
          have valuesEqual : value = value' := by
            simpa [lookup] using same key
          subst valuesEqual
          congr 1
          refine ih sortedLeft.2 sortedRight.2 fun name => ?_
          by_cases equal : name = key
          · subst equal
            rw [lookup_eq_none_iff.2 fun member =>
                String.lt_irrefl _ (sortedLeft.1 name member),
              lookup_eq_none_iff.2 fun member =>
                String.lt_irrefl _ (sortedRight.1 name member)]
          · simpa [lookup, equal] using same name

/-- Maps with the same look-ups are equal. -/
theorem ext_get? {left right : KeyMap α}
    (same : ∀ key, left.get? key = right.get? key) : left = right := by
  obtain ⟨entries, sorted⟩ := left
  obtain ⟨entries', sorted'⟩ := right
  have equal : entries = entries' := entries_eq_of_lookup sorted sorted' same
  subst equal
  rfl

/-- A map is built from its entries in any order. -/
theorem ofList_of_perm {pairs : List (String × α)} {map : KeyMap α}
    (permuted : pairs.Perm map.entries) : ofList pairs = map := by
  have reversed : pairs.reverse.Perm map.entries := pairs.reverse_perm.trans permuted
  have distinct : (pairs.reverse.map Prod.fst).Nodup :=
    (reversed.map Prod.fst).nodup_iff.2 map.nodup_keys
  apply ext_get?
  intro key
  apply Option.ext
  intro value
  rw [get?_ofList, lookup_eq_some_iff distinct, reversed.mem_iff, get?_eq_some_iff]

theorem ofList_entries (map : KeyMap α) : ofList map.entries = map :=
  ofList_of_perm .rfl

/-- Pairs in key order are kept as they are. -/
theorem entries_ofList {pairs : List (String × α)}
    (sorted : (pairs.map Prod.fst).Pairwise (· < ·)) : (ofList pairs).entries = pairs :=
  congrArg entries (ofList_entries ⟨pairs, sorted⟩)

theorem lookup_reverse (map : KeyMap α) (key : String) :
    lookup key map.entries.reverse = map.get? key := by
  rw [← get?_ofList, ofList_entries]

end KeyMap

end ControlLoop
