import ControlLoop.Proofs.Retagging

/-!
# Changes of tags that are applied in part

A change of tags sets pairs and then removes keys.  When the removal fails, the failure is
reported as that of a change which is applied in part, and may be tried again.  That is right
when there were pairs to set, for then they have been set by a call that succeeded.  When
there were none, not a single call has succeeded, and yet the report is the same, even of a
removal that has been refused for good.

`TagError.TellsApplied` says what such a report has to mean.

Main statement: `Executor.tellsApplied_iff`.
-/

namespace ControlLoop

namespace Session

variable {World : Type} {session final : Session World} {kind other : Event → Prop}

/-- What was added in between is of every kind of which only events were added. -/
theorem Gains.of_adds (gains : Gains kind session final) (adds : Adds other session final) :
    ∃ event, kind event ∧ other event := by
  obtain ⟨events, grown, event, member, isKind⟩ := gains
  obtain ⟨events', grown', areOther⟩ := adds
  obtain rfl := List.append_cancel_right (grown.symm.trans grown')
  exact ⟨event, isKind, areOther event member⟩

end Session

/-! ## Reports -/

namespace TagError

/-- Whether the failure is reported as that of a change which is applied in part. -/
def isHalfApplied (error : TagError) : Bool :=
  match error.step with
  | .delete _ => true
  | _ => false

/-- What the report of a failed change of tags has to mean. -/
structure TellsApplied {World : Type} (error : TagError) (resource : TagResource)
    (delta : TagDelta) (session final : Session World) : Prop where
  /-- A change is reported as applied in part only if its pairs have been set, by a call of
  its own that succeeded. -/
  applied : error.isHalfApplied = true →
    Session.Gains (· = .tagged resource (.replace delta.toReplace) none) session final
  /-- If there were no pairs to set, a removal that has been refused for good is not reported
  as one that may be tried again. -/
  refused : delta.toReplace.isEmpty = true → ∀ operation failure,
    error.source = .nonRetryable operation failure → error.isRetryable = false

theorem isRetryable_of_isHalfApplied {error : TagError}
    (halfApplied : error.isHalfApplied = true) : error.isRetryable = true := by
  obtain ⟨step, resource, source⟩ := error
  cases step with
  | delete replaced => rfl
  | _ => cases halfApplied

end TagError

/-- An attempt to remove keys that fails, or a sleep between two attempts. -/
def Event.FailsToRemove (resource : TagResource) (keys : KeySet) : Event → Prop
  | .tagged named call failure => named = resource ∧ call = .delete keys ∧ failure ≠ none
  | .slept _ _ => True
  | _ => False

namespace Executor

variable {World α : Type} {executor : Executor World}
variable {session final : Session World}

/-! ## Calls that succeed, and calls that fail -/

section

variable {operation : String} {kind : OperationKind} {event : Except RemoteError α → Event}

/-- A call that succeeds ends with an attempt that does. -/
theorem Concludes.gains {value : α}
    (concludes : executor.Concludes operation kind event session final (.ok value)) :
    Session.Gains (· = event (.ok value)) session final := by
  obtain ⟨last, undecided, ⟨answer, decides, journal⟩ | ⟨-, error, failed, -⟩⟩ := concludes
  · rw [decision?_eq_ok_iff] at decides
    exact .after undecided (.of_cons journal (congrArg event decides))
  · cases failed

/-- All attempts at a call that fails do so. -/
theorem Concludes.fails {failed : Event → Prop} {error : CallError}
    (concludes : executor.Concludes operation kind event session final
      (.error error : Except CallError α))
    (attempts : ∀ failure, failed (event (.error failure)))
    (sleeps : ∀ duration completed, failed (.slept duration completed)) :
    Session.Adds failed session final := by
  obtain ⟨last, undecided, decided⟩ := concludes
  have waited : Session.Adds failed session last := by
    obtain ⟨events, grown, areUndecided⟩ := undecided
    refine ⟨events, grown, fun noted member => ?_⟩
    rcases areUndecided noted member with ⟨duration, completed, rfl⟩ | ⟨failure, -, rfl⟩
    · exact sleeps duration completed
    · exact attempts failure
  rcases decided with ⟨failure | value, decides, journal⟩ | ⟨journal, -⟩
  · exact waited.trans (.of_cons journal (attempts failure))
  · cases decides
  · exact waited.trans ⟨[], journal, nofun⟩

end

variable {resource : TagResource} {policy : RetryPolicy} {delta : TagDelta}
variable {error : TagError}

/-! ## The halves of a change -/

theorem replaceTags_of_isEmpty {pairs : TagSet} (nothing : pairs.isEmpty = true) :
    executor.replaceTags resource pairs policy session = some (.ok (), session) := by
  rw [replaceTags, if_pos nothing]
  rfl

/-- Pairs are set by a call that succeeds. -/
theorem gains_of_replaceTags {pairs : TagSet} {done : Unit} (something : pairs.isEmpty = false)
    (ran : executor.replaceTags resource pairs policy session = some (.ok done, final)) :
    Session.Gains (· = .tagged resource (.replace pairs) none) session final := by
  rw [replaceTags, something, if_neg Bool.false_ne_true] at ran
  obtain ⟨answer, middle, called, ran⟩ := Run.bind_eq_some_iff.1 ran
  cases answer with
  | error failure => cases ran
  | ok value =>
      cases ran
      exact (executor.retry_concludes (Environment.callTags_notesAnswer _ _ _) called).gains

/-- Keys that cannot be removed are tried to be removed only. -/
theorem fails_of_deleteTags {replaced : Nat} {keys : KeySet}
    (ran : executor.deleteTags resource replaced keys policy session =
      some (.error error, final)) :
    error.step = .delete replaced ∧
      Session.Adds (Event.FailsToRemove resource keys) session final := by
  rw [deleteTags] at ran
  refine ⟨step_of_changeTags ran, ?_⟩
  split at ran
  next => cases ran
  next =>
    obtain ⟨answer, middle, called, ran⟩ := Run.bind_eq_some_iff.1 ran
    cases answer with
    | ok value => cases ran
    | error source =>
        cases ran
        have noting := Environment.callTags_notesAnswer resource (.delete keys)
          (executor.environment.deleteTags resource keys)
        exact (executor.retry_concludes noting called).fails
          (fun _ => ⟨rfl, rfl, Option.some_ne_none _⟩) fun _ _ => trivial

/-- A change fails with its first half, or after it with its second one. -/
theorem applyTags_eq_error_iff :
    executor.applyTags resource delta policy session = some (.error error, final) ↔
      executor.replaceTags resource delta.toReplace policy session =
          some (.error error, final) ∨
        ∃ middle,
          executor.replaceTags resource delta.toReplace policy session =
              some (.ok (), middle) ∧
            executor.deleteTags resource delta.toReplace.size delta.toDelete policy middle =
              some (.error error, final) := by
  rw [applyTags, Run.bind_eq_some_iff]
  constructor
  · rintro ⟨answer, middle, replaced, ran⟩
    cases answer with
    | error failure =>
        cases ran
        exact .inl replaced
    | ok done => exact .inr ⟨middle, replaced, ran⟩
  · rintro (replaced | ⟨middle, replaced, ran⟩)
    · exact ⟨_, _, replaced, rfl⟩
    · exact ⟨_, _, replaced, ran⟩

/-! ## What a failed change has applied -/

/-- A change that is reported as applied in part has set its pairs, if there were any. -/
theorem gains_of_applyTags (something : delta.toReplace.isEmpty = false)
    (halfApplied : error.isHalfApplied = true)
    (failed : executor.applyTags resource delta policy session = some (.error error, final)) :
    Session.Gains (· = .tagged resource (.replace delta.toReplace) none) session final := by
  rcases applyTags_eq_error_iff.1 failed with replaced | ⟨middle, replaced, deleted⟩
  · -- a failure to set the pairs is reported as such
    rw [replaceTags] at replaced
    rw [TagError.isHalfApplied, step_of_changeTags replaced] at halfApplied
    cases halfApplied
  · exact (gains_of_replaceTags something replaced).before (fails_of_deleteTags deleted).2

/-- Without pairs to set, a change that fails has done nothing but fail to remove keys. -/
theorem fails_of_applyTags (nothing : delta.toReplace.isEmpty = true)
    (failed : executor.applyTags resource delta policy session = some (.error error, final)) :
    error.step = .delete 0 ∧
      Session.Adds (Event.FailsToRemove resource delta.toDelete) session final := by
  have size : delta.toReplace.size = 0 :=
    List.length_eq_zero_iff.2 (List.isEmpty_iff.1 nothing)
  rcases applyTags_eq_error_iff.1 failed with replaced | ⟨middle, replaced, deleted⟩
  · rw [replaceTags_of_isEmpty nothing] at replaced
    cases replaced
  · rw [replaceTags_of_isEmpty nothing] at replaced
    cases replaced
    rw [← size]
    exact fails_of_deleteTags deleted

/-- The report of a change of tags that fails means what it has to exactly when there were
pairs to set.  Otherwise no call has succeeded, and yet the change is reported as applied in
part, and as one that may be tried again whatever the removal failed with. -/
theorem tellsApplied_iff
    (failed : executor.applyTags resource delta policy session = some (.error error, final)) :
    (error.TellsApplied resource delta session final ↔ delta.toReplace.isEmpty = false) ∧
    (delta.toReplace.isEmpty = true →
      error.step = .delete 0 ∧ error.isRetryable = true ∧
        Session.Adds (Event.FailsToRemove resource delta.toDelete) session final) := by
  have misreported (nothing : delta.toReplace.isEmpty = true) :
      error.isHalfApplied = true := by
    rw [TagError.isHalfApplied, (fails_of_applyTags nothing failed).1]
  refine ⟨⟨?_, ?_⟩, ?_⟩
  · intro tells
    rw [Bool.eq_false_iff]
    intro nothing
    -- a call that set the pairs would be among the attempts to remove keys
    have gains := tells.applied (misreported nothing)
    obtain ⟨_, rfl, -, removes, -⟩ := gains.of_adds (fails_of_applyTags nothing failed).2
    cases removes
  · intro something
    refine ⟨fun halfApplied => gains_of_applyTags something halfApplied failed, ?_⟩
    intro nothing
    cases something.symm.trans nothing
  · intro nothing
    obtain ⟨step, fails⟩ := fails_of_applyTags nothing failed
    exact ⟨step, TagError.isRetryable_of_isHalfApplied (misreported nothing), fails⟩

end Executor

namespace Simulation.TagStore

/-- A refusal that repeating the call does not change. -/
def refusal : RemoteError :=
  .api "InvalidParameter" "bad key" none

/-- A change of the tags in production that removes a key, which is refused. -/
def unpage (pairs : TagSet) : Option (Except TagError Unit × Session TagStore) :=
  executor.applyTags resource ⟨pairs, .ofKeys ["pager"]⟩ .write
    (.fresh ⟨production, (if pairs.isEmpty then [] else [none]) ++ [some (refusal, false)]⟩)

/-- What is reported when keys cannot be removed after so many pairs have been set. -/
def unremoved (replaced : Nat) : TagError :=
  ⟨.delete replaced, resource.name, .nonRetryable "delete tags" refusal⟩

/-- A pair to set before the key is removed. -/
def staged : TagSet :=
  .ofList [("env", "staging")]

/-- With a pair to set, the report of a refused removal is right. -/
theorem refused_removal_tellsApplied :
    ∃ final, unpage staged = some (.error (unremoved 1), final) ∧
      final.world.tags = production.insertAll staged ∧
      (unremoved 1).TellsApplied resource ⟨staged, .ofKeys ["pager"]⟩
        (.fresh ⟨production, [none, some (refusal, false)]⟩) final := by
  have ends : (unpage staged).map (fun ended => (ended.1, ended.2.world.tags)) =
      some (.error (unremoved 1), production.insertAll staged) := by
    decide +kernel
  obtain ⟨⟨result, final⟩, ran, same⟩ := Option.map_eq_some_iff.1 ends
  obtain ⟨rfl, left⟩ := Prod.mk.inj same
  exact ⟨final, ran, left, (Executor.tellsApplied_iff ran).1.2 (by decide)⟩

/-- Without pairs to set, a refused removal has changed nothing, and is reported as a change
that is applied in part and may be tried again. -/
theorem refused_removal_misreported :
    ∃ final, unpage .empty = some (.error (unremoved 0), final) ∧
      final.world.tags = production ∧ (unremoved 0).isRetryable = true ∧
      ¬(unremoved 0).TellsApplied resource ⟨.empty, .ofKeys ["pager"]⟩
        (.fresh ⟨production, [some (refusal, false)]⟩) final := by
  have ends : (unpage .empty).map (fun ended => (ended.1, ended.2.world.tags)) =
      some (.error (unremoved 0), production) := by
    decide +kernel
  obtain ⟨⟨result, final⟩, ran, same⟩ := Option.map_eq_some_iff.1 ends
  obtain ⟨rfl, left⟩ := Prod.mk.inj same
  refine ⟨final, ran, left, rfl, fun tells => ?_⟩
  cases tells.refused rfl "delete tags" refusal rfl

end Simulation.TagStore

end ControlLoop
