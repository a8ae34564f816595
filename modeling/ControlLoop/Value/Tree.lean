import ControlLoop.KeyMap

/-!
# Value trees

A `Tree` is a nested attribute value whose maps are entry lists.  It is `Ordered`
when every map in it, at any depth, has its keys in strictly increasing order;
`ControlLoop.Value` bundles the two.

Trees are ordered: truth values before integers, integers before strings, strings
before lists, lists before maps; `false` before `true`, strings by code points,
lists and maps item by item.

Main statement: `compare_eq_iff`, only equal trees compare equal; it makes
equality of trees decidable.
-/

namespace ControlLoop

/-- A nested attribute value, its maps held as entry lists. -/
inductive Tree where
  | bool (value : Bool)
  | int (value : Int64)
  | string (value : String)
  | list (items : List Tree)
  | map (entries : List (String × Tree))
  deriving Repr

namespace Tree

/-! ## Order -/

/-- Rank of the kind of a tree. -/
def rank : Tree → Nat
  | .bool _ => 0
  | .int _ => 1
  | .string _ => 2
  | .list _ => 3
  | .map _ => 4

mutual

/-- Order of two trees. -/
def compare : Tree → Tree → Ordering
  | .bool left, .bool right => Ord.compare left.toNat right.toNat
  | .int left, .int right => Ord.compare left.toInt right.toInt
  | .string left, .string right => Ord.compare left right
  | .list left, .list right => compareItems left right
  | .map left, .map right => compareEntries left right
  | left, right => Ord.compare left.rank right.rank

/-- Order of two lists, item by item. -/
def compareItems : List Tree → List Tree → Ordering
  | [], [] => .eq
  | [], _ :: _ => .lt
  | _ :: _, [] => .gt
  | left :: lefts, right :: rights =>
      (compare left right).then (compareItems lefts rights)

/-- Order of two entry lists, keys before values. -/
def compareEntries : List (String × Tree) → List (String × Tree) → Ordering
  | [], [] => .eq
  | [], _ :: _ => .lt
  | _ :: _, [] => .gt
  | (key, left) :: lefts, (other, right) :: rights =>
      ((Ord.compare key other).then (compare left right)).then
        (compareEntries lefts rights)

end

mutual

theorem compare_eq_iff : (left right : Tree) →
    (compare left right = .eq ↔ left = right)
  | .bool left, right => by
      cases right with
      | bool right => cases left <;> cases right <;> simp [compare]
      | _ => simp [compare, rank]
  | .int left, right => by
      cases right <;> simp [compare, rank, Int64.toInt_inj]
  | .string left, right => by cases right <;> simp [compare, rank]
  | .list left, right => by
      cases right <;> simp [compare, rank, compareItems_eq_iff left]
  | .map left, right => by
      cases right <;> simp [compare, rank, compareEntries_eq_iff left]

theorem compareItems_eq_iff : (left right : List Tree) →
    (compareItems left right = .eq ↔ left = right)
  | [], right => by cases right <;> simp [compareItems]
  | left :: lefts, right => by
      cases right <;>
        simp [compareItems, Ordering.then_eq_eq, compare_eq_iff left,
          compareItems_eq_iff lefts]

theorem compareEntries_eq_iff : (left right : List (String × Tree)) →
    (compareEntries left right = .eq ↔ left = right)
  | [], right => by cases right <;> simp [compareEntries]
  | (key, left) :: lefts, right => by
      cases right with
      | nil => simp [compareEntries]
      | cons entry rights =>
          obtain ⟨other, right⟩ := entry
          simp [compareEntries, Ordering.then_eq_eq, compare_eq_iff left,
            compareEntries_eq_iff lefts]

end

instance : DecidableEq Tree := fun left right =>
  decidable_of_iff (compare left right = .eq) (compare_eq_iff left right)

instance : Ord Tree := ⟨compare⟩

/-! ## Ordered maps -/

mutual

/-- Whether every map in the tree has strictly increasing keys. -/
def Ordered : Tree → Prop
  | .bool _ => True
  | .int _ => True
  | .string _ => True
  | .list items => OrderedItems items
  | .map entries => (entries.map Prod.fst).Pairwise (· < ·) ∧ OrderedEntries entries

/-- Whether every tree of a list is ordered. -/
def OrderedItems : List Tree → Prop
  | [] => True
  | item :: items => Ordered item ∧ OrderedItems items

/-- Whether every value of an entry list is ordered. -/
def OrderedEntries : List (String × Tree) → Prop
  | [] => True
  | (_, value) :: entries => Ordered value ∧ OrderedEntries entries

end

theorem orderedItems_iff {items : List Tree} :
    OrderedItems items ↔ ∀ item ∈ items, Ordered item := by
  induction items with
  | nil => simp [OrderedItems]
  | cons item items ih => simp [OrderedItems, ih]

theorem orderedEntries_iff {entries : List (String × Tree)} :
    OrderedEntries entries ↔ ∀ entry ∈ entries, Ordered entry.2 := by
  induction entries with
  | nil => simp [OrderedEntries]
  | cons entry entries ih =>
      obtain ⟨key, value⟩ := entry
      simp [OrderedEntries, ih]

end Tree

end ControlLoop
