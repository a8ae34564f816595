import ControlLoop.Proofs.Interruption

/-!
# Usable identifiers

An identifier addresses a resource again if it has the number of components that the
adapter expects.  A create does not ask for that: it stores whatever identifier the answer
gives.  Every later pass over the record then refuses the identifier before it does
anything, and only there does a pass refuse one.

Main statement: `Pass.usable_iff`.
-/

namespace ControlLoop

/-- The identifier of a record is in order wherever a pass still has to read it, and it is
not what a pass ended for. -/
def Standing.IsAddressed {World : Type} (adapter : Adapter) (standing : Standing World) :
    Prop :=
  match standing.stage with
  | .reconcile _ => ∃ id, Reconciler.checkedId adapter standing.record = .ok id
  | .delete => ∃ id, Reconciler.checkedId adapter standing.record = .ok id
  | .ended outcome => ∀ error, outcome ≠ .invalid (.identifier error)
  | _ => True

namespace Reconciler

variable {World : Type} {reconciler : Reconciler World} {adapter : Adapter}
variable {session final : Session World} {record : Record}

theorem isAddressed_of_declines {stage : Stage} {outcome : Outcome} {left : Record}
    (addressed : Standing.IsAddressed adapter ⟨stage, record, session⟩)
    (declines : reconciler.Declines adapter session record stage outcome left)
    (error : IdentifierError) : outcome ≠ .invalid (.identifier error) := by
  cases declines with
  | unreadableId start unreadable =>
      cases stage with
      | reconcile desired =>
          obtain ⟨id, readable⟩ := addressed
          cases unreadable.symm.trans readable
      | delete =>
          obtain ⟨id, readable⟩ := addressed
          cases unreadable.symm.trans readable
      | _ => cases start
  | _ => exact nofun

/-- Only where it begins does a pass refuse an identifier. -/
theorem isAddressed_of_step {standing next : Standing World}
    (addressed : standing.IsAddressed adapter)
    (step : reconciler.Step adapter standing next) : next.IsAddressed adapter := by
  cases step with
  | declined declines => exact isAddressed_of_declines addressed declines
  | failed _ => exact fun error => failing_ne_invalid _ _ _ _ _ _
  | observed _ _ _ => exact nofun
  | unchanged _ _ _ _ _ => exact nofun
  | unknown _ => exact nofun
  | deleted _ _ _ => exact nofun
  | _ => trivial

/-- The check of a known identifier fails exactly when the number of its components is not
what the adapter expects. -/
theorem checkedId_eq_error_iff {id : Identifier} (known : record.localId = some id) :
    (∃ error, checkedId adapter record = .error error) ↔ id.arity ≠ adapter.idArity := by
  constructor
  · rintro ⟨error, unreadable⟩ fits
    cases unreadable.symm.trans (checkedId_eq_ok_some_iff.2 ⟨known, fits⟩)
  · intro misfit
    cases checked : checkedId adapter record with
    | error error => exact ⟨error, rfl⟩
    | ok found =>
        cases found with
        | none => cases known.symm.trans (checkedId_eq_ok_none_iff.1 checked)
        | some other =>
            obtain ⟨same, fits⟩ := checkedId_eq_ok_some_iff.1 checked
            cases known.symm.trans same
            exact absurd fits misfit

end Reconciler

namespace Pass

variable {World : Type} {adapter : Adapter} {pass : Pass World adapter}

theorem outcome_of_unreadable {error : IdentifierError}
    (unreadable : Reconciler.checkedId adapter pass.before = .error error)
    (usable : ∀ desired, pass.goal = .reconcile desired → pass.before.tainted = false ∧
      pass.reconciler.catalog.get? adapter.resourceType ≠ none) :
    pass.outcome = .invalid (.identifier error) := by
  have ran := pass.ran
  cases goal : pass.goal with
  | delete =>
      rw [goal, Reconciler.pursue, Reconciler.delete, unreadable] at ran
      exact (congrArg (fun ended => ended.1.2) (Option.some.inj ran)).symm
  | reconcile desired =>
      obtain ⟨untainted, known⟩ := usable desired goal
      obtain ⟨schema, known⟩ := Option.ne_none_iff_exists'.1 known
      simp only [goal, Reconciler.pursue, Reconciler.reconcile, untainted, known, unreadable,
        Bool.false_eq_true, if_false] at ran
      exact (congrArg (fun ended => ended.1.2) (Option.some.inj ran)).symm

/-- A pass is refused for the identifier exactly when the identifier fails the check, unless
a reconcile is refused before that for a taint or an unknown resource type. -/
theorem misaddressed_iff :
    (∃ error, pass.outcome = .invalid (.identifier error)) ↔
      (∃ error, Reconciler.checkedId adapter pass.before = .error error) ∧
        ∀ desired, pass.goal = .reconcile desired → pass.before.tainted = false ∧
          pass.reconciler.catalog.get? adapter.resourceType ≠ none := by
  constructor
  · rintro ⟨error, refused⟩
    constructor
    · cases checked : Reconciler.checkedId adapter pass.before with
      | error error => exact ⟨error, rfl⟩
      | ok id =>
          have begins : pass.opening.IsAddressed adapter := by
            rw [opening]
            cases pass.goal with
            | reconcile desired => exact ⟨id, checked⟩
            | delete => exact ⟨id, checked⟩
          have ends : pass.ending.IsAddressed adapter :=
            Reconciler.invariant_of_steps (fun _ _ => Reconciler.isAddressed_of_step)
              pass.steps begins
          exact absurd refused (ends error)
    · intro desired goal
      have ran := pass.ran
      rw [goal, Reconciler.pursue, Reconciler.reconcile] at ran
      cases tainted : pass.before.tainted with
      | true =>
          rw [(ended_of_tainted goal tainted).1] at refused
          cases refused
      | false =>
          refine ⟨rfl, fun unknown => ?_⟩
          simp only [tainted, unknown, Bool.false_eq_true, if_false] at ran
          have outcome := congrArg (fun ended => ended.1.2) (Option.some.inj ran)
          cases outcome.trans refused
  · rintro ⟨⟨error, unreadable⟩, usable⟩
    exact ⟨error, outcome_of_unreadable unreadable usable⟩

/-- A reconcile stores the identifier from the answer to its create request, whatever the
number of its components.  What is stored can be decoded, and no later pass is refused for
it, exactly when that number is the one that the adapter expects. -/
theorem usable_iff {desired : DesiredState} (goal : pass.goal = .reconcile desired)
    {request : Request} {answer : Json} {parts : List String} {id : Identifier}
    (created : .called .create request (.ok answer) ∈ pass.journal)
    (parsed : adapter.createdParts answer desired = .ok parts)
    (encoded : Identifier.encode parts = .ok id) :
    pass.after.localId = some id ∧
      ((∃ other, Identifier.decode id.encoded adapter.idArity = .ok other) ↔
        parts.length = adapter.idArity) ∧
      ∀ next : Pass World adapter, next.before.localId = some id →
        ((∃ error, next.outcome = .invalid (.identifier error)) ↔
          parts.length ≠ adapter.idArity ∧
            ∀ wanted, next.goal = .reconcile wanted → next.before.tainted = false ∧
              next.reconciler.catalog.get? adapter.resourceType ≠ none) := by
  have size : id.arity = parts.length :=
    congrArg List.length (Identifier.encode_eq_ok_iff.1 encoded)
  have made : Reconciler.createdId adapter desired request answer = .ok id := by
    simp only [Reconciler.createdId, parsed, encoded]
    rfl
  refine ⟨pass.holdsCreated goal request answer id created made, ?_, ?_⟩
  · simp [Identifier.decode_encoded_eq_ok_iff, size]
  · intro next known
    rw [misaddressed_iff, Reconciler.checkedId_eq_error_iff known, size]

end Pass

/-- The request and the answer of an attempt to create a resource that was answered. -/
def Event.created? : Event → Option (Request × Json)
  | .called .create request (.ok answer) => some (request, answer)
  | _ => none

theorem Event.mem_of_created? {journal : List Event} {request : Request} {answer : Json}
    (member : (request, answer) ∈ journal.filterMap Event.created?) :
    .called .create request (.ok answer) ∈ journal := by
  obtain ⟨event, among, created⟩ := List.mem_filterMap.1 member
  unfold created? at created
  split at created
  · cases created
    exact among
  · cases created

namespace Simulation.Server

/-- An answer to a create request that gives a server three components. -/
def overnamed : Entry where
  answer := .ok (.object [("Parts", Json.ofStrings ["z1", "s1", "x"])])

/-- The answer to a read of the tags of a server that has none. -/
def untagged : Entry where
  answer := .ok (.object [("Tags", .array [])])

/-- A server is wanted in a zone. -/
def placed : DesiredState where
  attributes := .ofList [("zone", .string "z1")]

/-- The server is created, under a name that no later pass can use. -/
def misnames : Pass World adapter :=
  .ofEnded reconciler adapter {} (.reconcile placed)
    (world [("Create", [overnamed]), ("Describe", [found 2 "ready", found 2 "ready"]),
      ("DescribeResourceTags", [untagged])])
    (by decide +kernel)

/-- The misnamed server is to be deleted. -/
def strands : Pass World adapter :=
  .ofEnded reconciler adapter misnames.after .delete (world [("Delete", [accepted])])
    (by decide +kernel)

theorem misnamed_server_usable_iff :
    (∃ request answer id, misnames.goal = .reconcile placed ∧
      .called .create request (.ok answer) ∈ misnames.journal ∧
      adapter.createdParts answer placed = .ok ["z1", "s1", "x"] ∧
      Identifier.encode ["z1", "s1", "x"] = .ok id ∧
      misnames.after.localId = some id ∧
      ¬(∃ other, Identifier.decode id.encoded adapter.idArity = .ok other)) ∧
    ∃ error, strands.outcome = .invalid (.identifier error) := by
  let id : Identifier := ⟨["z1", "s1", "x"], by decide, by decide⟩
  let request : Request := adapter.createRequest placed
  let answer : Json := .object [("Parts", Json.ofStrings ["z1", "s1", "x"])]
  have created : .called .create request (.ok answer) ∈ misnames.journal :=
    Event.mem_of_created? (by decide +kernel)
  have parsed : adapter.createdParts answer placed = .ok ["z1", "s1", "x"] := rfl
  have encoded : Identifier.encode ["z1", "s1", "x"] = .ok id :=
    Identifier.encode_eq_ok_iff.2 rfl
  obtain ⟨stored, decodes, later⟩ := Pass.usable_iff rfl created parsed encoded
  refine ⟨⟨request, answer, id, rfl, created, parsed, encoded, stored, ?_⟩, ?_⟩
  · exact fun decoded => absurd (decodes.1 decoded) (by decide)
  · refine (later strands stored).2 ⟨by decide, fun wanted isReconcile => ?_⟩
    cases isReconcile

/-- A server that was created and stored, and cannot even be deleted. -/
theorem misnamed_server_is_stranded :
    misnames.outcome = .converged ∧
      misnames.after.localId.map Identifier.parts = some ["z1", "s1", "x"] ∧
      strands.before = misnames.after ∧ strands.journal = [] ∧
      strands.outcome = .invalid (.identifier (.arity "z1#s1#x" 2 3)) := by
  decide +kernel

end Simulation.Server

end ControlLoop
