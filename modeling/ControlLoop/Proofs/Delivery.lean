import ControlLoop.Proofs.Footprint

/-!
# Delivery of changes

A change of a resource is a list of mutations, to be made one after another.  The
attempts in a journal deliver such a list when they keep its order, and repeat a mutation
only because an attempt at it failed in a way that may be repeated.  A delivery may stop
anywhere; it is complete when nothing is left.

`Executor.Delivers` says so of the events between two sessions.  It holds of every step
that changes something, and tells that a step that succeeds leaves nothing.
-/

namespace ControlLoop

/-- A request that changes a resource or its tags. -/
inductive Mutation where
  | remote (purpose : Purpose) (request : Request)
  | tags (resource : TagResource) (call : TagCall)
  deriving DecidableEq

/-- An attempt at a mutation, with its failure if it failed. -/
abbrev Attempt : Type := Mutation × Option RemoteError

/-- The attempt at a mutation that an event is. -/
def Event.attempt? : Event → Option Attempt
  | .called purpose request answer =>
      if purpose.kind = .write then some (.remote purpose request, failureOf answer)
      else none
  | .tagged resource call failure =>
      if call = .describe then none else some (.tags resource call, failure)
  | _ => none

/-- The attempts in a journal, earliest first. -/
def attemptsOf (journal : List Event) : List Attempt :=
  journal.reverse.filterMap Event.attempt?

/-- How attempts work through planned mutations, and which mutations they leave. -/
inductive Delivery (retryable : RemoteError → Prop) :
    List Mutation → List Attempt → List Mutation → Prop where
  /-- Nothing else is attempted. -/
  | stop (planned : List Mutation) : Delivery retryable planned [] planned
  /-- The next mutation is accepted. -/
  | accepted {mutation : Mutation} {planned left : List Mutation}
      {attempts : List Attempt} :
      Delivery retryable planned attempts left →
      Delivery retryable (mutation :: planned) ((mutation, none) :: attempts) left
  /-- The next mutation is refused for good. -/
  | refused {mutation : Mutation} {planned : List Mutation} {failure : RemoteError} :
      Delivery retryable (mutation :: planned) [(mutation, some failure)]
        (mutation :: planned)
  /-- The next mutation fails, and may be repeated. -/
  | failed {mutation : Mutation} {planned left : List Mutation}
      {attempts : List Attempt} {failure : RemoteError} :
      retryable failure → Delivery retryable (mutation :: planned) attempts left →
      Delivery retryable (mutation :: planned) ((mutation, some failure) :: attempts) left

section

variable {retryable : RemoteError → Prop} {planned further left : List Mutation}
variable {attempts later : List Attempt} {newer older : List Event} {event : Event}

theorem attemptsOf_append : attemptsOf (newer ++ older) = attemptsOf older ++ attemptsOf newer := by
  simp [attemptsOf]

theorem attemptsOf_cons :
    attemptsOf (event :: older) = attemptsOf older ++ event.attempt?.toList := by
  rw [attemptsOf, attemptsOf, List.reverse_cons, List.filterMap_append]
  cases found : event.attempt? <;> simp [found]

theorem attemptsOf_eq_nil (others : ∀ event ∈ older, event.attempt? = none) :
    attemptsOf older = [] := by
  rw [attemptsOf, List.filterMap_eq_nil_iff]
  simpa using others

namespace Delivery

/-- After a complete delivery others may follow. -/
theorem append (complete : Delivery retryable planned attempts [])
    (delivery : Delivery retryable further later left) :
    Delivery retryable (planned ++ further) (attempts ++ later) left := by
  generalize none_left : ([] : List Mutation) = nothing at complete
  induction complete with
  | stop planned =>
      subst none_left
      exact delivery
  | accepted _ ih => exact .accepted (ih none_left)
  | refused => cases none_left
  | failed mayRepeat _ ih => exact .failed mayRepeat (ih none_left)

/-- A delivery may stop before further mutations. -/
theorem before (delivery : Delivery retryable planned attempts left)
    (further : List Mutation) :
    Delivery retryable (planned ++ further) attempts (left ++ further) := by
  induction delivery with
  | stop planned => exact .stop _
  | accepted _ ih => exact .accepted ih
  | refused => exact .refused
  | failed mayRepeat _ ih => exact .failed mayRepeat ih

end Delivery

end

namespace Executor

variable {World α : Type} (executor : Executor World)

/-- A failed attempt at a mutation may be repeated. -/
def Retries (failure : RemoteError) : Prop :=
  executor.classifier.classify failure .write = .retryable

/-- The events between two sessions deliver planned mutations, and leave nothing if a
condition holds. -/
def Delivers (planned : List Mutation) (complete : Prop)
    (session final : Session World) : Prop :=
  ∃ events left, final.journal = events ++ session.journal ∧
    Delivery executor.Retries planned (attemptsOf events) left ∧ (complete → left = [])

section

variable {executor} {planned further : List Mutation} {complete other : Prop}
variable {session middle final : Session World}

/-- Events that attempt nothing deliver nothing. -/
theorem Delivers.of_adds {kind : Event → Prop} (adds : Session.Adds kind session final)
    (others : ∀ event, kind event → event.attempt? = none) :
    executor.Delivers [] complete session final := by
  rcases adds with ⟨events, grown, areKind⟩
  have silent : attemptsOf events = [] :=
    attemptsOf_eq_nil fun event member => others event (areKind event member)
  exact ⟨events, [], grown, silent ▸ .stop [], fun _ => rfl⟩

theorem Delivers.refl (session : Session World) :
    executor.Delivers [] complete session session :=
  ⟨[], [], rfl, .stop [], fun _ => rfl⟩

/-- A complete delivery can be followed by another one. -/
theorem Delivers.trans (earlier : executor.Delivers planned complete session middle)
    (completes : complete) (later : executor.Delivers further other middle final) :
    executor.Delivers (planned ++ further) other session final := by
  rcases earlier with ⟨events, left, grown, delivery, nothing⟩
  rcases later with ⟨events', left', grown', delivery', nothing'⟩
  rw [nothing completes] at delivery
  refine ⟨events' ++ events, left', ?_, ?_, nothing'⟩
  · rw [grown', grown, List.append_assoc]
  · rw [attemptsOf_append]
    exact delivery.append delivery'

/-- A delivery that is not complete may stop before further mutations. -/
theorem Delivers.before (delivers : executor.Delivers planned complete session final)
    (further : List Mutation) (incomplete : ¬other) :
    executor.Delivers (planned ++ further) other session final := by
  rcases delivers with ⟨events, left, grown, delivery, -⟩
  exact ⟨events, left ++ further, grown, delivery.before further,
    fun completes => absurd completes incomplete⟩

theorem Delivers.imp (delivers : executor.Delivers planned complete session final)
    (weaker : other → complete) : executor.Delivers planned other session final := by
  rcases delivers with ⟨events, left, grown, delivery, nothing⟩
  exact ⟨events, left, grown, delivery, fun completes => nothing (weaker completes)⟩

end

/-! ## Calls -/

section

variable {executor} {mutation : Mutation} {event : Except RemoteError α → Event}
variable {session final : Session World}

/-- Undecided attempts at a mutation may come before any others at it. -/
theorem delivery_of_undecided {planned left : List Mutation} {events : List Event}
    {attempts : List Attempt}
    (isAttempt : ∀ answer, (event answer).attempt? = some (mutation, failureOf answer))
    (undecided : ∀ noted ∈ events, executor.IsUndecided .write event noted)
    (delivery : Delivery executor.Retries (mutation :: planned) attempts left) :
    Delivery executor.Retries (mutation :: planned) (attemptsOf events ++ attempts)
      left := by
  induction events generalizing attempts with
  | nil => exact delivery
  | cons noted events ih =>
      rw [List.forall_mem_cons] at undecided
      rw [attemptsOf_cons, List.append_assoc]
      apply ih undecided.2
      rcases undecided.1 with ⟨duration, completed, rfl⟩ | ⟨failure, mayRepeat, rfl⟩
      · exact delivery
      · rw [isAttempt]
        exact .failed mayRepeat delivery

/-- The retries of a call deliver its mutation, and leave nothing if the call
succeeds. -/
theorem Concludes.delivers {operation : String} {result : Except CallError α}
    (isAttempt : ∀ answer, (event answer).attempt? = some (mutation, failureOf answer))
    (concludes : executor.Concludes operation .write event session final result) :
    executor.Delivers [mutation] (result.isOk = true) session final := by
  rcases concludes with ⟨last, ⟨events, grown, undecided⟩, decided⟩
  rcases decided with ⟨answer, decides, journal⟩ | ⟨journal, error, rfl, -⟩
  · rw [grown, ← List.cons_append] at journal
    rcases answer with failure | value
    · refine ⟨_, [mutation], journal, ?_, ?_⟩
      · rw [attemptsOf_cons, isAttempt]
        exact delivery_of_undecided isAttempt undecided .refused
      · intro succeeds
        rcases result with error | value
        · cases succeeds
        · rw [decision?_eq_ok_iff] at decides
          cases decides
    · refine ⟨_, [], journal, ?_, fun _ => rfl⟩
      rw [attemptsOf_cons, isAttempt]
      exact delivery_of_undecided isAttempt undecided (.accepted (.stop []))
  · rw [grown] at journal
    refine ⟨_, [mutation], journal, ?_, nofun⟩
    rw [← List.append_nil (attemptsOf events)]
    exact delivery_of_undecided isAttempt undecided (.stop [mutation])

theorem delivers_of_retryTags {resource : TagResource} {call : TagCall}
    {operation : String} {policy : RetryPolicy}
    {action : World → Except RemoteError α × World} {result : Except CallError α}
    (ran : executor.retry operation .write policy
      (Environment.callTags resource call action) session = some (result, final))
    (changes : call ≠ .describe) :
    executor.Delivers [.tags resource call] (result.isOk = true) session final := by
  refine (executor.retry_concludes
    (Environment.callTags_notesAnswer resource call action) ran).delivers fun answer => ?_
  rw [Event.attempt?, if_neg changes]

end

end Executor

/-! ## Tags -/

/-- The mutations that a change of tags is made of: pairs are set before keys are
removed, and a half that is empty is left out. -/
def TagDelta.mutations (resource : TagResource) (delta : TagDelta) : List Mutation :=
  (if delta.toReplace.isEmpty then [] else [.tags resource (.replace delta.toReplace)]) ++
    if delta.toDelete.isEmpty then [] else [.tags resource (.delete delta.toDelete)]

theorem TagDelta.mutations_eq_nil_iff {resource : TagResource} {delta : TagDelta} :
    delta.mutations resource = [] ↔ delta.isEmpty = true := by
  rw [mutations, isEmpty]
  cases delta.toReplace.isEmpty <;> cases delta.toDelete.isEmpty <;> simp

namespace Executor

variable {World : Type} {executor : Executor World} {resource : TagResource}
variable {policy : RetryPolicy} {session final : Session World}

/-- A half of a change of tags delivers its mutation, unless it is empty. -/
theorem delivers_of_changeTags {nothing : Bool} {operation : String} {call : TagCall}
    {action : World → Except RemoteError Unit × World} {blame : CallError → TagError}
    {result : Except TagError Unit} (changes : call ≠ .describe)
    (ran : (if nothing then return .ok ()
      else do
        let answer ← executor.retry operation .write policy
          (Environment.callTags resource call action)
        return answer.mapError blame : Run World (Except TagError Unit)) session =
      some (result, final)) :
    executor.Delivers (if nothing then [] else [.tags resource call]) (result.isOk = true)
      session final := by
  cases nothing with
  | true =>
      cases ran
      exact .refl _
  | false =>
      rcases Run.bind_eq_some_iff.1 ran with ⟨answer, middle, called, ran⟩
      cases ran
      refine (delivers_of_retryTags called changes).imp ?_
      cases answer <;> exact id

theorem delivers_of_applyTags {delta : TagDelta} {result : Except TagError Unit}
    (ran : executor.applyTags resource delta policy session = some (result, final)) :
    executor.Delivers (delta.mutations resource) (result.isOk = true) session final := by
  rcases Run.bind_eq_some_iff.1 ran with ⟨answer, middle, replaced, ran⟩
  rw [replaceTags] at replaced
  have first := delivers_of_changeTags (by simp) replaced
  rcases answer with error | done
  · cases ran
    exact first.before _ Bool.false_ne_true
  · dsimp only at ran
    rw [deleteTags] at ran
    exact first.trans rfl (delivers_of_changeTags (by simp) ran)

theorem delivers_of_syncTags {desired observed : TagSet}
    {result : Except TagError TagDelta}
    (ran : executor.syncTags resource desired observed policy session =
      some (result, final)) :
    executor.Delivers ((TagDelta.between desired observed).mutations resource)
      (result.isOk = true) session final := by
  rw [syncTags] at ran
  split at ran
  next nothing =>
    cases ran
    rw [TagDelta.mutations_eq_nil_iff.2 nothing]
    exact .refl _
  next something =>
    rcases Run.bind_eq_some_iff.1 ran with ⟨answer, middle, applied, ran⟩
    cases ran
    refine (delivers_of_applyTags applied).imp ?_
    cases answer <;> exact id

end Executor

/-- The changes of tags that lead from observed to desired ones, if the resource has
tags. -/
def Adapter.tagMutations (adapter : Adapter) (id : Identifier)
    (desired observed : TagSet) : List Mutation :=
  match adapter.tagResource id with
  | none => []
  | some resource => (TagDelta.between desired observed).mutations resource

theorem Reconciler.tagMutations_eq_nil_iff {adapter : Adapter} {id : Identifier}
    {desired : TagSet} {record : Record} :
    adapter.tagMutations id desired record.tags = [] ↔
      (tagDelta adapter id desired record).isEmpty = true := by
  rw [Adapter.tagMutations, tagDelta]
  cases adapter.tagResource id with
  | none => exact iff_of_true rfl rfl
  | some resource => exact TagDelta.mutations_eq_nil_iff

namespace Reconciler

variable {World : Type} {reconciler : Reconciler World} {adapter : Adapter}
variable {session final : Session World}

theorem delivers_of_call {purpose : Purpose} {request : Request}
    {result : Except CallError Json} (writes : purpose.kind = .write)
    (ran : reconciler.call purpose request session = some (result, final)) :
    reconciler.executor.Delivers [.remote purpose request] (result.isOk = true) session
      final := by
  have concludes := reconciler.call_concludes ran
  rw [writes] at concludes
  refine concludes.delivers fun answer => ?_
  rw [Event.attempt?, if_pos writes]

theorem delivers_of_callAll {purpose : Purpose} {requests : List Request}
    {result : Except CallError Unit} (writes : purpose.kind = .write)
    (ran : reconciler.callAll purpose requests session = some (result, final)) :
    reconciler.executor.Delivers (requests.map (.remote purpose)) (result.isOk = true)
      session final := by
  induction requests generalizing session with
  | nil =>
      cases ran
      exact .refl _
  | cons request requests ih =>
      rcases Run.bind_eq_some_iff.1 ran with ⟨answer, middle, called, ran⟩
      have first := delivers_of_call writes called
      rcases answer with error | answer
      · cases ran
        exact first.before _ Bool.false_ne_true
      · exact first.trans rfl (ih ran)

theorem delivers_of_applyTags {record : Record} {id : Identifier}
    {result : Except PassError Unit}
    (ran : reconciler.applyTags adapter record id session = some (result, final)) :
    reconciler.executor.Delivers
      (adapter.tagMutations id record.desired.tags record.tags) (result.isOk = true)
      session final := by
  rw [applyTags] at ran
  rw [Adapter.tagMutations]
  cases place : adapter.tagResource id with
  | none =>
      simp only [place] at ran
      cases ran
      exact .refl _
  | some resource =>
      simp only [place] at ran
      rcases Run.bind_eq_some_iff.1 ran with ⟨answer, middle, synced, ran⟩
      have delivers := Executor.delivers_of_syncTags synced
      cases answer <;> cases ran <;> exact delivers

end Reconciler

end ControlLoop
