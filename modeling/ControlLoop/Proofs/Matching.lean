import ControlLoop.Value.Comparison
import Mathlib

/-!
# What the unordered comparison decides

The unordered comparison sorts every list in two values and compares the results.
`Value.Matches` says what that decides, without an order: scalars match when they are equal,
lists when they are of the same length and the items of one can be arranged so that they
match the items of the other one by one, and maps when they have the same keys with matching
values.

Sorting loses nothing and tells nothing apart that matches, since trees are in a total order
in which only equal trees compare equal.

Main statement: `Value.unordered_decides_matches`.
-/

namespace ControlLoop

/-! ## The order of trees -/

namespace Tree

/-- What is compared in two steps is in order if both steps are. -/
theorem then_eq_lt_trans {head head' head'' tail tail' tail'' : Ordering}
    (heads : head = .lt → head' = .lt → head'' = .lt) (first : head = .eq → head'' = head')
    (last : head' = .eq → head'' = head)
    (tails : tail = .lt → tail' = .lt → tail'' = .lt)
    (less : head.then tail = .lt) (less' : head'.then tail' = .lt) :
    head''.then tail'' = .lt := by
  rw [Ordering.then_eq_lt] at less less' ⊢
  rcases less with less | ⟨same, less⟩
  · rcases less' with less' | ⟨same', -⟩
    · exact .inl (heads less less')
    · exact .inl ((last same').trans less)
  · rcases less' with less' | ⟨same', less'⟩
    · exact .inl ((first same).trans less')
    · exact .inr ⟨(first same).trans same', tails less less'⟩

/-- Trees of different kinds are in the order of their kinds. -/
theorem compare_of_rank_ne {left right : Tree} (different : left.rank ≠ right.rank) :
    compare left right = Ord.compare left.rank right.rank := by
  cases left <;> cases right <;> first | rfl | exact absurd rfl different

theorem rank_le_of_compare {left right : Tree} (less : compare left right = .lt) :
    left.rank ≤ right.rank := by
  by_cases same : left.rank = right.rank
  · exact Nat.le_of_eq same
  · rw [compare_of_rank_ne same, Nat.compare_eq_lt] at less
    exact Nat.le_of_lt less

/-- A tree between two trees of a kind is of that kind. -/
theorem rank_eq_of_between {left middle right : Tree} (less : compare left middle = .lt)
    (less' : compare middle right = .lt) (same : left.rank = right.rank) :
    left.rank = middle.rank :=
  Nat.le_antisymm (rank_le_of_compare less) (same ▸ rank_le_of_compare less')

theorem compare_lt_trans_of_rank_ne {left middle right : Tree}
    (less : compare left middle = .lt) (less' : compare middle right = .lt)
    (different : left.rank ≠ right.rank) : compare left right = .lt := by
  have ordered : left.rank ≤ right.rank :=
    Nat.le_trans (rank_le_of_compare less) (rank_le_of_compare less')
  rw [compare_of_rank_ne different, Nat.compare_eq_lt]
  exact Nat.lt_of_le_of_ne ordered different

mutual

theorem compare_swap : (left right : Tree) →
    (compare left right).swap = compare right left
  | .bool left, right => by
      cases right with
      | bool right => exact Nat.compare_swap _ _
      | _ => rfl
  | .int left, right => by
      cases right with
      | int right => exact Int.compare_swap _ _
      | _ => rfl
  | .string left, right => by
      cases right with
      | string right => exact Std.OrientedOrd.eq_swap.symm
      | _ => rfl
  | .list left, right => by
      cases right with
      | list right => exact compareItems_swap left right
      | _ => rfl
  | .map left, right => by
      cases right with
      | map right => exact compareEntries_swap left right
      | _ => rfl

theorem compareItems_swap : (left right : List Tree) →
    (compareItems left right).swap = compareItems right left
  | [], right => by cases right <;> rfl
  | left :: lefts, right => by
      cases right with
      | nil => rfl
      | cons right rights =>
          simp only [compareItems, Ordering.swap_then, compare_swap left,
            compareItems_swap lefts]

theorem compareEntries_swap : (left right : List (String × Tree)) →
    (compareEntries left right).swap = compareEntries right left
  | [], right => by cases right <;> rfl
  | (key, left) :: lefts, right => by
      cases right with
      | nil => rfl
      | cons entry rights =>
          obtain ⟨other, right⟩ := entry
          have keys : (Ord.compare key other).swap = Ord.compare other key :=
            Std.OrientedOrd.eq_swap.symm
          simp only [compareEntries, Ordering.swap_then, keys, compare_swap left,
            compareEntries_swap lefts]

end

mutual

theorem compare_lt_trans : (left middle right : Tree) → compare left middle = .lt →
    compare middle right = .lt → compare left right = .lt
  | .bool left, middle, right, less, less' => by
      cases right with
      | bool right =>
          cases middle with
          | bool middle =>
              change Ord.compare left.toNat right.toNat = .lt
              exact Std.TransCmp.lt_trans less less'
          | _ => cases rank_eq_of_between less less' rfl
      | _ => exact compare_lt_trans_of_rank_ne less less' nofun
  | .int left, middle, right, less, less' => by
      cases right with
      | int right =>
          cases middle with
          | int middle =>
              change Ord.compare left.toInt right.toInt = .lt
              exact Std.TransCmp.lt_trans less less'
          | _ => cases rank_eq_of_between less less' rfl
      | _ => exact compare_lt_trans_of_rank_ne less less' nofun
  | .string left, middle, right, less, less' => by
      cases right with
      | string right =>
          cases middle with
          | string middle =>
              change Ord.compare left right = .lt
              exact Std.TransCmp.lt_trans less less'
          | _ => cases rank_eq_of_between less less' rfl
      | _ => exact compare_lt_trans_of_rank_ne less less' nofun
  | .list left, middle, right, less, less' => by
      cases right with
      | list right =>
          cases middle with
          | list middle => exact compareItems_lt_trans left middle right less less'
          | _ => cases rank_eq_of_between less less' rfl
      | _ => exact compare_lt_trans_of_rank_ne less less' nofun
  | .map left, middle, right, less, less' => by
      cases right with
      | map right =>
          cases middle with
          | map middle => exact compareEntries_lt_trans left middle right less less'
          | _ => cases rank_eq_of_between less less' rfl
      | _ => exact compare_lt_trans_of_rank_ne less less' nofun

theorem compareItems_lt_trans : (left middle right : List Tree) →
    compareItems left middle = .lt → compareItems middle right = .lt →
    compareItems left right = .lt
  | [], [], _, less, _ => nomatch less
  | [], _ :: _, [], _, less' => nomatch less'
  | [], _ :: _, _ :: _, _, _ => rfl
  | _ :: _, [], _, less, _ => nomatch less
  | _ :: _, _ :: _, [], _, less' => nomatch less'
  | left :: lefts, middle :: middles, right :: rights, less, less' => by
      refine then_eq_lt_trans (compare_lt_trans left middle right) ?_ ?_
        (compareItems_lt_trans lefts middles rights) less less'
      · intro same
        rw [(compare_eq_iff left middle).1 same]
      · intro same
        rw [(compare_eq_iff middle right).1 same]

theorem compareEntries_lt_trans : (left middle right : List (String × Tree)) →
    compareEntries left middle = .lt → compareEntries middle right = .lt →
    compareEntries left right = .lt
  | [], [], _, less, _ => nomatch less
  | [], _ :: _, [], _, less' => nomatch less'
  | [], _ :: _, _ :: _, _, _ => rfl
  | _ :: _, [], _, less, _ => nomatch less
  | _ :: _, _ :: _, [], _, less' => nomatch less'
  | (key, left) :: lefts, (key', middle) :: middles, (key'', right) :: rights,
    less, less' => by
      refine then_eq_lt_trans ?_ ?_ ?_
        (compareEntries_lt_trans lefts middles rights) less less'
      · -- the keys decide before the values do
        refine then_eq_lt_trans Std.TransCmp.lt_trans ?_ ?_
          (compare_lt_trans left middle right)
        · intro same
          rw [Std.LawfulEqCmp.eq_of_compare same]
        · intro same
          rw [Std.LawfulEqCmp.eq_of_compare same]
      · intro same
        rw [Ordering.then_eq_eq, compare_eq_iff] at same
        rw [Std.LawfulEqCmp.eq_of_compare same.1, same.2]
      · intro same
        rw [Ordering.then_eq_eq, compare_eq_iff] at same
        rw [Std.LawfulEqCmp.eq_of_compare same.1, same.2]

end

instance : Std.LawfulEqCmp compare where
  compare_self := (compare_eq_iff _ _).2 rfl
  eq_of_compare := (compare_eq_iff _ _).1

instance : Std.TransCmp compare where
  eq_swap := (compare_swap _ _).symm
  isLE_trans := by
    intro left middle right less less'
    rw [Ordering.isLE_iff_eq_lt_or_eq_eq] at less less' ⊢
    rcases less with less | same
    · rcases less' with less' | same'
      · exact .inl (compare_lt_trans left middle right less less')
      · exact .inl ((compare_eq_iff middle right).1 same' ▸ less)
    · exact (compare_eq_iff left middle).1 same ▸ less'

/-! ## Sorting -/

/-- Two lists are sorted alike exactly when each is a permutation of the other. -/
theorem mergeSort_eq_iff_perm {left right : List Tree} :
    (left.mergeSort fun tree other => (compare tree other).isLE) =
        (right.mergeSort fun tree other => (compare tree other).isLE) ↔
      left.Perm right := by
  have sorted (trees : List Tree) :
      (trees.mergeSort fun tree other => (compare tree other).isLE).Pairwise
        fun tree other => (compare tree other).isLE = true := by
    apply List.pairwise_mergeSort
    · exact fun _ _ _ => Std.TransCmp.isLE_trans
    · intro tree other
      rw [← compare_swap tree other]
      cases compare tree other <;> rfl
  constructor
  · intro same
    exact (List.mergeSort_perm left _).symm.trans (same ▸ List.mergeSort_perm right _)
  · intro permuted
    refine List.Perm.eq_of_pairwise ?_ (sorted left) (sorted right) ?_
    · intro tree other _ _ before after
      exact Std.LawfulEqCmp.eq_of_compare (Std.OrientedCmp.isLE_antisymm before after)
    · exact (List.mergeSort_perm left _).trans
        (permuted.trans (List.mergeSort_perm right _).symm)

theorem canonicalItems_eq_map (items : List Tree) :
    canonicalItems items = items.map canonical := by
  induction items with
  | nil => rfl
  | cons item items ih => rw [canonicalItems, ih, List.map_cons]

theorem canonicalEntries_eq_map (entries : List (String × Tree)) :
    canonicalEntries entries = entries.map fun entry => (entry.1, entry.2.canonical) := by
  induction entries with
  | nil => rfl
  | cons entry entries ih =>
      obtain ⟨key, value⟩ := entry
      rw [canonicalEntries, ih, List.map_cons]

end Tree

namespace Value

/-! ## The forms of values -/

theorem tree_injective : Function.Injective tree := by
  intro left right same
  cases left
  cases same
  rfl

theorem tree_list (items : List Value) : (list items).tree = .list (items.map tree) :=
  rfl

theorem tree_map (entries : KeyMap Value) :
    (map entries).tree = .map (entries.map tree).entries :=
  rfl

theorem list_inj {left right : List Value} : list left = list right ↔ left = right := by
  rw [← tree_injective.eq_iff, tree_list, tree_list, Tree.list.injEq]
  exact (List.map_injective_iff.2 tree_injective).eq_iff

theorem map_inj {left right : KeyMap Value} : map left = map right ↔ left = right := by
  constructor
  · intro same
    rw [← tree_injective.eq_iff, tree_map, tree_map, Tree.map.injEq] at same
    apply KeyMap.ext_get?
    intro key
    have found : (left.map tree).get? key = (right.map tree).get? key := by
      rw [KeyMap.get?, KeyMap.get?, same]
    rw [KeyMap.get?_map, KeyMap.get?_map] at found
    exact Option.map_injective tree_injective found
  · exact congrArg map

/-- Every tree in order that is a list is the tree of a list of values. -/
theorem exists_eq_list {items : List Tree} (ordered : (Tree.list items).Ordered) :
    ∃ values, (⟨.list items, ordered⟩ : Value) = list values := by
  refine ⟨items.pmap mk (Tree.orderedItems_iff.1 ordered), tree_injective ?_⟩
  rw [tree_list, List.map_pmap]
  simp

/-- Every tree in order that is a map is the tree of a map of values. -/
theorem exists_eq_map {entries : List (String × Tree)}
    (ordered : (Tree.map entries).Ordered) :
    ∃ values, (⟨.map entries, ordered⟩ : Value) = map values := by
  obtain ⟨values, isMap⟩ : ∃ values, (⟨.map entries, ordered⟩ : Value).map? = some values :=
    ⟨_, rfl⟩
  refine ⟨values, tree_injective ?_⟩
  rw [tree_map, Tree.map.injEq]
  cases isMap
  simp [KeyMap.map, List.map_pmap]

theorem sizeOf_lt_of_mem {item : Value} {items : List Value} (member : item ∈ items) :
    sizeOf item.tree < sizeOf (list items).tree := by
  have smaller := List.sizeOf_lt_of_mem (List.mem_map_of_mem (f := tree) member)
  rw [tree_list, Tree.list.sizeOf_spec]
  lia

theorem sizeOf_lt_of_get? {key : String} {value : Value} {entries : KeyMap Value}
    (bound : entries.get? key = some value) :
    sizeOf value.tree < sizeOf (map entries).tree := by
  have held : (key, value.tree) ∈ (entries.map tree).entries := by
    rw [← KeyMap.get?_eq_some_iff, KeyMap.get?_map, bound]
    rfl
  have smaller := List.sizeOf_lt_of_mem held
  rw [tree_map, Tree.map.sizeOf_spec]
  rw [Prod.mk.sizeOf_spec] at smaller
  lia

/-- What holds of scalars, and of lists and maps when it holds of all that is in them, holds
of every value. -/
theorem induct {motive : Value → Prop} (bool : ∀ held, motive (bool held))
    (int : ∀ held, motive (int held)) (string : ∀ held, motive (string held))
    (list : ∀ items, (∀ item ∈ items, motive item) → motive (list items))
    (map : ∀ entries, (∀ key value, entries.get? key = some value → motive value) →
      motive (map entries)) : (value : Value) → motive value
  | ⟨.bool held, _⟩ => bool held
  | ⟨.int held, _⟩ => int held
  | ⟨.string held, _⟩ => string held
  | ⟨.list items, ordered⟩ => by
      obtain ⟨values, isList⟩ := exists_eq_list ordered
      have smaller {item : Value} (member : item ∈ values) :
          sizeOf item.tree < sizeOf (Tree.list items) := by
        have less := sizeOf_lt_of_mem member
        rwa [← isList] at less
      rw [isList]
      exact list values fun item member => induct bool int string list map item
  | ⟨.map entries, ordered⟩ => by
      obtain ⟨values, isMap⟩ := exists_eq_map ordered
      have smaller {key : String} {item : Value} (bound : values.get? key = some item) :
          sizeOf item.tree < sizeOf (Tree.map entries) := by
        have less := sizeOf_lt_of_get? bound
        rwa [← isMap] at less
      rw [isMap]
      exact map values fun key item bound => induct bool int string list map item
termination_by value => sizeOf value.tree
decreasing_by
  · exact smaller member
  · exact smaller bound

/-! ## Canonical forms -/

theorem map_tree_mergeSort (values : List Value) :
    (values.mergeSort fun value other => (value.compare other).isLE).map tree =
      (values.map tree).mergeSort fun tree other => (tree.compare other).isLE :=
  List.map_mergeSort fun _ _ _ _ => rfl

theorem mergeSort_eq_iff_perm {left right : List Value} :
    (left.mergeSort fun value other => (value.compare other).isLE) =
        (right.mergeSort fun value other => (value.compare other).isLE) ↔
      left.Perm right := by
  rw [← (List.map_injective_iff.2 tree_injective).eq_iff, map_tree_mergeSort,
    map_tree_mergeSort, Tree.mergeSort_eq_iff_perm]
  exact List.map_perm_map_iff tree_injective

/-- The canonical form of a list holds the canonical forms of its items, sorted. -/
theorem canonical_list (items : List Value) :
    (list items).canonical =
      list ((items.map canonical).mergeSort fun value other => (value.compare other).isLE) := by
  apply tree_injective
  rw [tree_list, map_tree_mergeSort, List.map_map]
  change Tree.list ((Tree.canonicalItems (items.map tree)).mergeSort _) = _
  rw [Tree.canonicalItems_eq_map, List.map_map]
  rfl

/-- The canonical form of a map holds the canonical forms of its values. -/
theorem canonical_map (entries : KeyMap Value) :
    (map entries).canonical = map (entries.map canonical) := by
  apply tree_injective
  change Tree.map (Tree.canonicalEntries (entries.map tree).entries) = _
  rw [Tree.canonicalEntries_eq_map, tree_map]
  simp [KeyMap.map, canonical]

/-- Two lists have the same canonical form exactly when they hold items of the same canonical
forms, each as often. -/
theorem canonical_list_eq_iff {left right : List Value} :
    (list left).canonical = (list right).canonical ↔
      (left.map canonical).Perm (right.map canonical) := by
  rw [canonical_list, canonical_list, list_inj, mergeSort_eq_iff_perm]

/-- A canonical form is its own canonical form. -/
theorem canonical_canonical (value : Value) : value.canonical.canonical = value.canonical := by
  induction value using induct with
  | bool held => rfl
  | int held => rfl
  | string held => rfl
  | list items ih =>
      have kept : (items.map canonical).map canonical = items.map canonical := by
        rw [List.map_map]
        exact List.map_congr_left ih
      have sorted := List.mergeSort_perm (items.map canonical)
        fun value other => (value.compare other).isLE
      rw [canonical_list items, canonical_list, list_inj, mergeSort_eq_iff_perm]
      have again := sorted.map canonical
      rwa [kept] at again
  | map entries ih =>
      rw [canonical_map, canonical_map, map_inj]
      apply KeyMap.ext_get?
      intro key
      rw [KeyMap.get?_map, KeyMap.get?_map, Option.map_map]
      exact Option.map_congr fun value bound => ih key value bound

/-! ## Matching values -/

/-- Two values are the same but for the order of items in lists, at any depth. -/
inductive Matches : Value → Value → Prop where
  | bool (held : Bool) : Matches (bool held) (bool held)
  | int (held : Int64) : Matches (int held) (int held)
  | string (held : String) : Matches (string held) (string held)
  /-- The items of one list, arranged in some order, match those of the other one by one. -/
  | list {left right arranged : List Value} (permuted : arranged.Perm right)
      (sameLength : left.length = arranged.length)
      (paired : ∀ pair ∈ left.zip arranged, Matches pair.1 pair.2) :
      Matches (list left) (list right)
  | map {left right : KeyMap Value}
      (sameKeys : ∀ key, left.contains key = right.contains key)
      (paired : ∀ key value other, left.get? key = some value →
        right.get? key = some other → Matches value other) :
      Matches (map left) (map right)

/-- Values that match have the same canonical form. -/
theorem Matches.canonical_eq {left right : Value} (matched : left.Matches right) :
    left.canonical = right.canonical := by
  induction matched with
  | bool held => rfl
  | int held => rfl
  | string held => rfl
  | @list left right arranged permuted sameLength _ ih =>
      have same : left.map canonical = arranged.map canonical := by
        rw [← List.forall₂_eq_eq_eq, List.forall₂_map_left_iff, List.forall₂_map_right_iff]
        exact List.forall₂_iff_zip.2 ⟨sameLength, ih _⟩
      rw [canonical_list_eq_iff, same]
      exact permuted.map canonical
  | @map left right sameKeys _ ih =>
      rw [canonical_map, canonical_map, map_inj]
      apply KeyMap.ext_get?
      intro key
      have bound := sameKeys key
      rw [KeyMap.contains, KeyMap.contains] at bound
      rw [KeyMap.get?_map, KeyMap.get?_map]
      cases found : left.get? key with
      | none =>
          rw [found, Option.isSome_none, eq_comm, Option.isSome_eq_false_iff,
            Option.isNone_iff_eq_none] at bound
          rw [bound]
      | some value =>
          rw [found, Option.isSome_some, eq_comm, Option.isSome_iff_exists] at bound
          obtain ⟨other, found'⟩ := bound
          rw [found', Option.map_some, Option.map_some, ih key value other found found']

/-- Values of the same canonical form match. -/
theorem matches_of_canonical_eq {left right : Value}
    (same : left.canonical = right.canonical) : left.Matches right := by
  induction left using induct generalizing right with
  | bool held =>
      induction right using induct with
      | bool other =>
          cases congrArg tree same
          exact .bool held
      | _ => cases congrArg tree same
  | int held =>
      induction right using induct with
      | int other =>
          cases congrArg tree same
          exact .int held
      | _ => cases congrArg tree same
  | string held =>
      induction right using induct with
      | string other =>
          cases congrArg tree same
          exact .string held
      | _ => cases congrArg tree same
  | list items ih =>
      induction right using induct with
      | list others =>
          -- the canonical forms are permuted, so the items can be arranged like them
          obtain ⟨arranged, alike, permuted⟩ :=
            (congrFun₂ (List.eq_map_comp_perm canonical) (items.map canonical) others).mpr
              (canonical_list_eq_iff.1 same)
          rw [← List.forall₂_eq_eq_eq, List.forall₂_map_left_iff, List.forall₂_map_right_iff,
            List.forall₂_iff_zip] at alike
          refine .list permuted alike.1 fun pair member => ?_
          exact ih pair.1 (List.of_mem_zip member).1 (alike.2 member)
      | _ => cases congrArg tree same
  | map entries ih =>
      induction right using induct with
      | map others =>
          rw [canonical_map, canonical_map, map_inj] at same
          have alike (key : String) :
              (entries.get? key).map canonical = (others.get? key).map canonical := by
            rw [← KeyMap.get?_map, ← KeyMap.get?_map, same]
          refine .map ?_ ?_
          · intro key
            have bound := congrArg Option.isSome (alike key)
            rwa [Option.isSome_map, Option.isSome_map] at bound
          · intro key value other found found'
            have both := alike key
            rw [found, found'] at both
            exact ih key value found (Option.some_inj.1 both)
      | _ => cases congrArg tree same

/-- The unordered comparison decides whether two values match, for any two values.  So it is
an equivalence relation; a canonical form is its own canonical form and matches what it was
made from, and equal values match. -/
theorem unordered_decides_matches :
    (∀ left right : Value, left.equivalent right .unordered = true ↔ left.Matches right) ∧
    Equivalence (fun left right : Value => left.equivalent right .unordered = true) ∧
    (∀ value : Value, value.canonical.canonical = value.canonical) ∧
    (∀ value : Value, value.equivalent value.canonical .unordered = true) ∧
    ∀ left right : Value, left.equivalent right .ordered = true →
      left.equivalent right .unordered = true := by
  have decides (left right : Value) :
      left.equivalent right .unordered = true ↔ left.canonical = right.canonical := by
    rw [equivalent, beq_iff_eq]
  refine ⟨?_, ⟨?_, ?_, ?_⟩, canonical_canonical, ?_, ?_⟩
  · intro left right
    rw [decides]
    exact ⟨matches_of_canonical_eq, Matches.canonical_eq⟩
  · intro value
    exact (decides value value).2 rfl
  · intro left right same
    exact (decides right left).2 ((decides left right).1 same).symm
  · intro left middle right same same'
    exact (decides left right).2
      (((decides left middle).1 same).trans ((decides middle right).1 same'))
  · intro value
    exact (decides value value.canonical).2 value.canonical_canonical.symm
  · intro left right same
    rw [equivalent, beq_iff_eq] at same
    exact (decides left right).2 (same ▸ rfl)

end Value

namespace Simulation

/-- A service that listens on some ports. -/
def service (ports : List Int64) : Value :=
  .map (.ofList [("ports", .list (ports.map .int))])

/-- A list of services matches another arrangement of it, also with the ports of a service in
another order, but a service counts as often as it is listed. -/
theorem services_match :
    (Value.list [service [443, 80], .string "z"]).Matches
        (.list [.string "z", service [80, 443]]) ∧
      ¬(Value.list [service [80], service [80], .string "z"]).Matches
        (.list [service [80], .string "z", .string "z"]) := by
  have decides := Value.unordered_decides_matches.1
  have alike : (Value.list [service [443, 80], .string "z"]).equivalent
      (.list [.string "z", service [80, 443]]) .unordered = true := by
    cbv
  have counted : (Value.list [service [80], service [80], .string "z"]).equivalent
      (.list [service [80], .string "z", .string "z"]) .unordered = false := by
    cbv
  refine ⟨(decides _ _).1 alike, fun matched => ?_⟩
  rw [(decides _ _).2 matched] at counted
  cases counted

end Simulation

end ControlLoop
