/-!
# Identifiers

An `Identifier` is the local name of a remote resource: one or more components,
none empty and none containing the separator `#`.  Its encoded form joins the
components by the separator.  Because components never contain the separator, the
encoded form can be split back.
-/

namespace ControlLoop

/-- What is wrong with an identifier. -/
inductive IdentifierError where
  /-- The encoded form has another number of components than expected. -/
  | arity (encoded : String) (expected actual : Nat)
  | separatorInComponent (component : String)
  | emptyComponent (index : Nat)
  | noComponents
  deriving DecidableEq, Repr

/-- The local name of a remote resource. -/
structure Identifier where
  parts : List String
  parts_ne_nil : parts ≠ []
  parts_valid : ∀ part ∈ parts, part ≠ "" ∧ '#' ∉ part.toList
  deriving DecidableEq

namespace Identifier

/-- Stands between the components of the encoded form. -/
def separator : Char := '#'

/-- The encoded form, for durable storage. -/
def encoded (identifier : Identifier) : String :=
  "#".intercalate identifier.parts

/-- The number of components. -/
def arity (identifier : Identifier) : Nat :=
  identifier.parts.length

/-- The first component that is empty or contains the separator, where the first
of `parts` has position `index`. -/
def firstFault (index : Nat) : List String → Option IdentifierError
  | [] => none
  | part :: parts =>
      if part = "" then some (.emptyComponent index)
      else if '#' ∈ part.toList then some (.separatorInComponent part)
      else firstFault (index + 1) parts

theorem valid_of_firstFault_eq_none {index : Nat} {parts : List String}
    (faultless : firstFault index parts = none) :
    ∀ part ∈ parts, part ≠ "" ∧ '#' ∉ part.toList := by
  induction parts generalizing index with
  | nil => simp
  | cons part parts ih =>
      simp only [firstFault] at faultless
      split at faultless
      · cases faultless
      next nonempty =>
        split at faultless
        · cases faultless
        next separatorFree =>
          intro other member
          rcases List.mem_cons.1 member with rfl | later
          · exact ⟨nonempty, separatorFree⟩
          · exact ih faultless other later

/-- Join components. -/
def encode (parts : List String) : Except IdentifierError Identifier :=
  if nonempty : parts = [] then .error .noComponents
  else match faultless : firstFault 0 parts with
    | some fault => .error fault
    | none => .ok ⟨parts, nonempty, valid_of_firstFault_eq_none faultless⟩

/-- The pieces of a text between separators. -/
def pieces (text : String) : List String :=
  (text.toList.splitOn '#').map String.ofList

/-- Split an encoded form into exactly `arity` components. -/
def decode (text : String) (arity : Nat) : Except IdentifierError Identifier :=
  if (pieces text).length ≠ arity then
    .error (.arity text arity (pieces text).length)
  else encode (pieces text)

/-- Split an encoded form into as many components as it has. -/
def parse (text : String) : Except IdentifierError Identifier :=
  decode text (pieces text).length

/-- Identifiers are ordered by their encoded forms. -/
def compare (left right : Identifier) : Ordering :=
  (Ord.compare left.encoded right.encoded).then
    (Ord.compare left.parts right.parts)

end Identifier

namespace IdentifierError

/-- The fault in words. -/
def message : IdentifierError → String
  | .arity encoded expected actual =>
      s!"identifier '" ++ encoded ++ s!"' has {actual} component(s), expected {expected}"
  | .separatorInComponent component =>
      "component '" ++ component ++ "' contains the reserved separator '#'"
  | .emptyComponent index => s!"component {index} of identifier is empty"
  | .noComponents => "identifier must have at least one component"

/-- The fault as a code. -/
def code : IdentifierError → String
  | .arity .. => "ID_ARITY_MISMATCH"
  | .separatorInComponent _ => "ID_SEPARATOR_IN_COMPONENT"
  | .emptyComponent _ => "ID_EMPTY_COMPONENT"
  | .noComponents => "ID_NO_COMPONENTS"

/-- Whether the fault is the number of components. -/
def isArity : IdentifierError → Bool
  | .arity .. => true
  | _ => false

end IdentifierError

end ControlLoop
