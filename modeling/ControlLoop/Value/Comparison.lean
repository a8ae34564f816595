import ControlLoop.Value.Basic

/-!
# Comparing values

A field is compared either `ordered`, where lists agree item by item, or
`unordered`, where lists agree as multisets at every depth.  The unordered
comparison puts every list into the order of trees first.
-/

namespace ControlLoop

/-- How the lists in a field are compared. -/
inductive CompareMode where
  | ordered
  | unordered
  deriving DecidableEq, Repr, Inhabited

namespace CompareMode

/-- The name of the mode in JSON. -/
def name : CompareMode → String
  | .ordered => "ordered"
  | .unordered => "unordered"

/-- Read a mode. -/
def ofJson? (json : Json) : Option CompareMode :=
  json.choice?.bind fun name =>
    [ordered, unordered].find? fun mode => mode.name == name

/-- The mode as JSON. -/
def toJson (mode : CompareMode) : Json :=
  .string mode.name

end CompareMode

namespace Tree

mutual

/-- The tree with every list in it sorted. -/
def canonical : Tree → Tree
  | .bool value => .bool value
  | .int value => .int value
  | .string value => .string value
  | .list items =>
      .list ((canonicalItems items).mergeSort fun left right =>
        (compare left right).isLE)
  | .map entries => .map (canonicalEntries entries)

/-- The items of a list, each canonical. -/
def canonicalItems : List Tree → List Tree
  | [] => []
  | item :: items => canonical item :: canonicalItems items

/-- The entries of a map, each value canonical. -/
def canonicalEntries : List (String × Tree) → List (String × Tree)
  | [] => []
  | (key, value) :: entries => (key, canonical value) :: canonicalEntries entries

end

theorem keys_canonicalEntries (entries : List (String × Tree)) :
    (canonicalEntries entries).map Prod.fst = entries.map Prod.fst := by
  induction entries with
  | nil => rfl
  | cons entry entries ih =>
      obtain ⟨key, value⟩ := entry
      simp [canonicalEntries, ih]

mutual

theorem ordered_canonical : (tree : Tree) → tree.Ordered → tree.canonical.Ordered
  | .bool _, _ => trivial
  | .int _, _ => trivial
  | .string _, _ => trivial
  | .list items, ordered => by
      have held := orderedItems_iff.1 (ordered_canonicalItems items ordered)
      exact orderedItems_iff.2 fun item member =>
        held item (List.mem_mergeSort.1 member)
  | .map entries, ordered =>
      ⟨by rw [keys_canonicalEntries]; exact ordered.1,
        ordered_canonicalEntries entries ordered.2⟩

theorem ordered_canonicalItems : (items : List Tree) → OrderedItems items →
    OrderedItems (canonicalItems items)
  | [], _ => trivial
  | item :: items, ordered =>
      ⟨ordered_canonical item ordered.1, ordered_canonicalItems items ordered.2⟩

theorem ordered_canonicalEntries : (entries : List (String × Tree)) →
    OrderedEntries entries → OrderedEntries (canonicalEntries entries)
  | [], _ => trivial
  | (_, value) :: entries, ordered =>
      ⟨ordered_canonical value ordered.1, ordered_canonicalEntries entries ordered.2⟩

end

end Tree

namespace Value

/-- The order of values. -/
def compare (left right : Value) : Ordering :=
  left.tree.compare right.tree

/-- The value with every list in it sorted. -/
def canonical (value : Value) : Value :=
  ⟨value.tree.canonical, Tree.ordered_canonical value.tree value.ordered⟩

/-- Whether two values count as the same in a field compared in the given way. -/
def equivalent (left right : Value) : CompareMode → Bool
  | .ordered => left == right
  | .unordered => left.canonical == right.canonical

end Value

end ControlLoop
