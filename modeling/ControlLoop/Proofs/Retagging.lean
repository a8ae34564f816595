import ControlLoop.Proofs.Agreement
import ControlLoop.Proofs.Certainty
import ControlLoop.Simulation.World

/-!
# Recovery of tags

Tags are changed by two calls, each repeated while it fails, and an attempt that fails may
have taken effect all the same.  So a change that stops anywhere leaves one of a few sets
of tags: the observed ones, those with the new pairs set, or the desired ones.  In all of
them a key that needed no change is as it was, and the next comparison finds exactly what
is still missing.

`Environment.KeepsTags` says what is asked of the tag service.

Main statement: `Executor.recovers_of_syncTags`.
-/

namespace ControlLoop

/-! ## What calls make of tags -/

namespace KeyMap

variable {α : Type}

/-- Bind the pairs of another map as well, replacing earlier bindings. -/
def insertAll (map others : KeyMap α) : KeyMap α :=
  others.entries.foldl (fun map entry => map.insert entry.1 entry.2) map

/-- Remove the keys of a set. -/
def eraseAll (map : KeyMap α) (keys : KeyMap Unit) : KeyMap α :=
  map.filter fun key _ => !keys.contains key

@[simp] theorem get?_insertAll (map others : KeyMap α) (key : String) :
    (map.insertAll others).get? key = (others.get? key).or (map.get? key) := by
  rw [insertAll, get?_foldl_insert, lookup_reverse]

@[simp] theorem get?_eraseAll (map : KeyMap α) (keys : KeyMap Unit) (key : String) :
    (map.eraseAll keys).get? key = if (keys.get? key).isSome then none else map.get? key := by
  rw [eraseAll, get?_filter, contains]
  cases keys.get? key <;> cases map.get? key <;> rfl

theorem insertAll_of_isEmpty {map others : KeyMap α} (none : others.isEmpty = true) :
    map.insertAll others = map := by
  apply ext_get?
  intro key
  simp [isEmpty_iff.1 none key]

theorem eraseAll_of_isEmpty {map : KeyMap α} {keys : KeyMap Unit}
    (none : keys.isEmpty = true) : map.eraseAll keys = map := by
  apply ext_get?
  intro key
  simp [isEmpty_iff.1 none key]

end KeyMap

namespace TagCall

/-- What a call of the tag service makes of the tags of its resource. -/
def applied : TagCall → TagSet → TagSet
  | .describe, tags => tags
  | .replace pairs, tags => tags.insertAll pairs
  | .delete keys, tags => tags.eraseAll keys

/-- A call that has taken effect changes nothing any more. -/
@[simp] theorem applied_applied (call : TagCall) (tags : TagSet) :
    call.applied (call.applied tags) = call.applied tags := by
  cases call with
  | describe => rfl
  | replace pairs =>
      apply KeyMap.ext_get?
      intro key
      cases found : pairs.get? key <;> simp [applied, found]
  | delete keys =>
      apply KeyMap.ext_get?
      intro key
      cases found : keys.get? key <;> simp [applied, found]

/-- The keys that a call of the tag service sends. -/
def keys : TagCall → List String
  | .describe => []
  | .replace pairs => pairs.keys
  | .delete keys => keys.keys

/-- An attempt at a call takes full effect, or it fails and takes none. -/
def Takes {α : Type} (call : TagCall) (before : TagSet) (answer : Except RemoteError α)
    (after : TagSet) : Prop :=
  after = call.applied before ∨ (∃ failure, answer = .error failure) ∧ after = before

end TagCall

namespace TagDelta

variable (desired observed : TagSet) (key : String)

theorem get?_toReplace :
    (between desired observed).toReplace.get? key =
      if desired.get? key = observed.get? key then none else desired.get? key := by
  rw [between, KeyMap.get?_filter]
  cases desired.get? key with
  | none => simp
  | some value =>
      by_cases same : observed.get? key = some value
      · simp [same, Option.filter]
      · simp [same, Ne.symm same, Option.filter]

theorem get?_toDelete :
    (between desired observed).toDelete.get? key =
      if desired.get? key = none then (observed.get? key).map fun _ => () else none := by
  rw [between, KeyMap.get?_map, KeyMap.get?_filter, KeyMap.contains]
  cases desired.get? key <;> cases observed.get? key <;> rfl

/-- The pairs to set and then the keys to remove lead from the observed to the desired
tags. -/
theorem eraseAll_insertAll :
    (observed.insertAll (between desired observed).toReplace).eraseAll
      (between desired observed).toDelete = desired := by
  apply KeyMap.ext_get?
  intro key
  rw [KeyMap.get?_eraseAll, KeyMap.get?_insertAll, get?_toReplace, get?_toDelete]
  cases desired.get? key with
  | none => cases observed.get? key <;> rfl
  | some value =>
      by_cases same : observed.get? key = some value
      · simp [same]
      · simp [Ne.symm same]

end TagDelta

/-! ## Repeated calls -/

/-- A run that succeeds brings about one condition, and one that fails keeps another. -/
def Run.Reaches {World α ε : Type} (kept : World → Prop) (reached : α → World → Prop) :
    Except ε α → World → Prop
  | .ok value, world => reached value world
  | .error _, world => kept world

namespace Environment

variable {World : Type}

/-- Reading the clock, sleeping and drawing keep a condition. -/
structure ClockKeeps (environment : Environment World) (kept : World → Prop) : Prop where
  now : ∀ world, kept world → kept (environment.now world).2
  sleep : ∀ duration world, kept world → kept (environment.sleep duration world).2
  draw : ∀ world, kept world → kept (environment.draw world).2

namespace ClockKeeps

variable {environment : Environment World} {kept : World → Prop}

theorem time (keeps : environment.ClockKeeps kept) :
    environment.time.Ensures kept fun _ => kept :=
  .act keeps.now

theorem rest (keeps : environment.ClockKeeps kept) (duration : Duration) :
    (environment.rest duration).Ensures kept fun _ => kept := by
  have sleeps : (Run.act (environment.sleep duration)).Ensures kept fun _ => kept :=
    .act (keeps.sleep duration)
  exact .bind sleeps fun _ => .bind (.note fun _ => id) fun _ => .pure fun _ => id

theorem pauseFor (keeps : environment.ClockKeeps kept) (policy : RetryPolicy)
    (attempt : Nat) : (environment.pauseFor policy attempt).Ensures kept fun _ => kept := by
  rw [Environment.pauseFor]
  split
  · exact .bind (.act keeps.draw) fun _ => .pure fun _ => id
  · exact .pure fun _ => id

end ClockKeeps

/-- The tag service holds the tags of a resource, which only its own calls change.  A call
that succeeds has taken full effect, and one that fails has taken either full effect or
none; a list of the tags shows them as they are. -/
structure KeepsTags (environment : Environment World) (resource : TagResource)
    (tags : World → TagSet) : Prop where
  now : ∀ world, tags (environment.now world).2 = tags world
  sleep : ∀ duration world, tags (environment.sleep duration world).2 = tags world
  draw : ∀ world, tags (environment.draw world).2 = tags world
  replace : ∀ pairs world,
    (TagCall.replace pairs).Takes (tags world) (environment.replaceTags resource pairs world).1
      (tags (environment.replaceTags resource pairs world).2)
  delete : ∀ keys world,
    (TagCall.delete keys).Takes (tags world) (environment.deleteTags resource keys world).1
      (tags (environment.deleteTags resource keys world).2)
  describe : ∀ world,
    TagCall.describe.Takes (tags world) (environment.describeTags resource world).1
      (tags (environment.describeTags resource world).2)
  lists : ∀ world listed, (environment.describeTags resource world).1 = .ok listed →
    listed = tags world

/-- Time does not change tags. -/
theorem KeepsTags.clockKeeps {environment : Environment World} {resource : TagResource}
    {tags : World → TagSet} (keeps : environment.KeepsTags resource tags)
    (property : TagSet → Prop) : environment.ClockKeeps fun world => property (tags world) where
  now world held := by rwa [keeps.now]
  sleep duration world held := by rwa [keeps.sleep]
  draw world held := by rwa [keeps.draw]

end Environment

namespace Executor

variable {World α : Type} {executor : Executor World} {kept : World → Prop}
variable {reached : α → World → Prop} {attempt : Run World (Except RemoteError α)}

theorem retryAfter_ensures {operation : String} {kind : OperationKind}
    {policy : RetryPolicy} {started : Duration} {rounds attempts : Nat}
    (keeps : executor.environment.ClockKeeps kept)
    (again : (executor.retryFrom operation kind policy attempt started rounds
      (attempts + 1)).Ensures kept (Run.Reaches kept reached))
    (answer : Except RemoteError α) :
    (executor.retryAfter operation kind policy attempt started rounds attempts
      answer).Ensures (Run.Reaches kept reached answer) (Run.Reaches kept reached) := by
  cases answer with
  | ok result => exact .pure fun _ => id
  | error failure =>
      rw [retryAfter]
      cases executor.classifier.classify failure kind with
      | nonRetryable => exact .pure fun _ => id
      | fatal => exact .pure fun _ => id
      | retryable =>
          apply Run.Ensures.bind keeps.time
          intro now
          dsimp only
          split
          · exact .pure fun _ => id
          · apply Run.Ensures.bind (keeps.pauseFor policy attempts)
            intro pause
            apply Run.Ensures.bind (keeps.rest _)
            intro completed
            cases completed with
            | true => exact again
            | false => exact .pure fun _ => id

/-- A condition that failed attempts keep is kept until an attempt succeeds. -/
theorem retryFrom_ensures (operation : String) (kind : OperationKind) (policy : RetryPolicy)
    (keeps : executor.environment.ClockKeeps kept)
    (attempts : attempt.Ensures kept (Run.Reaches kept reached)) (started : Duration)
    (rounds made : Nat) :
    (executor.retryFrom operation kind policy attempt started rounds made).Ensures kept
      (Run.Reaches kept reached) := by
  induction rounds generalizing made with
  | zero => exact .outOfRounds
  | succ rounds ih =>
      rw [retryFrom_succ]
      have asks : executor.environment.isCancelled.Ensures kept fun _ => kept :=
        .look fun _ => id
      apply Run.Ensures.bind asks
      intro cancelled
      cases cancelled with
      | true => exact .pure fun _ => id
      | false => exact .bind attempts (retryAfter_ensures keeps (ih (made + 1)))

theorem retry_ensures (operation : String) (kind : OperationKind) (policy : RetryPolicy)
    (keeps : executor.environment.ClockKeeps kept)
    (attempts : attempt.Ensures kept (Run.Reaches kept reached)) :
    (executor.retry operation kind policy attempt).Ensures kept
      (Run.Reaches kept reached) :=
  .bind keeps.time fun started =>
    retryFrom_ensures operation kind policy keeps attempts started executor.rounds 0

end Executor

namespace TagCall

/-- The tags are as they were before a call, or as the call makes them. -/
def Touches (call : TagCall) (before after : TagSet) : Prop :=
  after = before ∨ after = call.applied before

/-- What is left by attempts at a call: a failed one may have taken effect or not. -/
abbrev Leaves {World α ε : Type} (call : TagCall) (before : TagSet) (tags : World → TagSet) :
    Except ε α → World → Prop :=
  Run.Reaches (fun world => call.Touches before (tags world)) fun _ world =>
    tags world = call.applied before

/-- Another attempt at a call finds the tags touched by the call, and leaves them so. -/
theorem Takes.leaves {α World : Type} {call : TagCall} {before : TagSet}
    {tags : World → TagSet} {answer : Except RemoteError α} {world after : World}
    (takes : call.Takes (tags world) answer (tags after))
    (touched : call.Touches before (tags world)) : call.Leaves before tags answer after := by
  have effect : tags after = call.applied (tags world) → tags after = call.applied before := by
    intro effect
    cases touched with
    | inl untouched => rw [effect, untouched]
    | inr done => rw [effect, done, applied_applied]
  cases takes with
  | inl done =>
      cases answer with
      | ok value => exact effect done
      | error failure => exact .inr (effect done)
  | inr undone =>
      obtain ⟨⟨failure, rfl⟩, same⟩ := undone
      rw [← same] at touched
      exact touched

end TagCall

namespace Executor

variable {World α : Type} {executor : Executor World} {resource : TagResource}
variable {tags : World → TagSet} {before : TagSet} {call : TagCall}

/-- While a call of the tag service is being repeated it may have taken effect or not, and
when it succeeds it has. -/
theorem retry_leaves (operation : String) (kind : OperationKind) (policy : RetryPolicy)
    (keeps : executor.environment.KeepsTags resource tags)
    {action : World → Except RemoteError α × World}
    (takes : ∀ world, call.Takes (tags world) (action world).1 (tags (action world).2)) :
    (executor.retry operation kind policy
      (Environment.callTags resource call action)).Ensures
      (fun world => call.Touches before (tags world)) (call.Leaves before tags) := by
  have acts : (Run.act action).Ensures (fun world => call.Touches before (tags world))
      (call.Leaves before tags) :=
    .act fun world touched => (takes world).leaves touched
  exact retry_ensures operation kind policy (keeps.clockKeeps (call.Touches before))
    (.bind acts fun _ => .bind (.note fun _ => id) fun _ => .pure fun _ => id)

/-- A half of a change of tags leaves what its call leaves.  It is left out only where the
call would change nothing, and how its failure is reported does not matter. -/
theorem changeTags_leaves {nothing : Bool} {operation : String} {policy : RetryPolicy}
    {action : World → Except RemoteError Unit × World} {blame : CallError → TagError}
    (keeps : executor.environment.KeepsTags resource tags)
    (takes : ∀ world, call.Takes (tags world) (action world).1 (tags (action world).2))
    (idle : nothing = true → call.applied before = before) :
    (if nothing then return .ok ()
      else do
        let answer ← executor.retry operation .write policy
          (Environment.callTags resource call action)
        return answer.mapError blame : Run World (Except TagError Unit)).Ensures
      (fun world => call.Touches before (tags world)) (call.Leaves before tags) := by
  cases nothing with
  | true =>
      apply Run.Ensures.pure
      intro world touched
      cases touched with
      | inl untouched => exact untouched.trans (idle rfl).symm
      | inr done => exact done
  | false =>
      apply Run.Ensures.bind (retry_leaves operation .write policy keeps takes)
      intro answer
      cases answer with
      | ok done => exact .pure fun _ => id
      | error error => exact .pure fun _ => id

theorem replaceTags_leaves (keeps : executor.environment.KeepsTags resource tags)
    (pairs : TagSet) (policy : RetryPolicy) :
    (executor.replaceTags resource pairs policy).Ensures
      (fun world => (TagCall.replace pairs).Touches before (tags world))
      ((TagCall.replace pairs).Leaves before tags) := by
  rw [replaceTags]
  exact changeTags_leaves keeps (keeps.replace pairs) KeyMap.insertAll_of_isEmpty

theorem deleteTags_leaves (keeps : executor.environment.KeepsTags resource tags)
    (replaced : Nat) (keys : KeySet) (policy : RetryPolicy) :
    (executor.deleteTags resource replaced keys policy).Ensures
      (fun world => (TagCall.delete keys).Touches before (tags world))
      ((TagCall.delete keys).Leaves before tags) := by
  rw [deleteTags]
  exact changeTags_leaves keeps (keeps.delete keys) KeyMap.eraseAll_of_isEmpty

/-- A list of the tags shows them as they are, and changes none. -/
theorem describeTags_lists (keeps : executor.environment.KeepsTags resource tags)
    (held : TagSet) (policy : RetryPolicy) :
    (executor.describeTags resource policy).Ensures (fun world => tags world = held)
      (Run.Reaches (fun world => tags world = held) fun listed world =>
        listed = held ∧ tags world = held) := by
  have acts : (Run.act (executor.environment.describeTags resource)).Ensures
      (fun world => tags world = held)
      (Run.Reaches (fun world => tags world = held) fun listed world =>
        listed = held ∧ tags world = held) := by
    apply Run.Ensures.act
    intro world same
    have unchanged : tags (executor.environment.describeTags resource world).2 = held := by
      cases keeps.describe world with
      | inl effect => exact effect.trans same
      | inr noEffect => exact noEffect.2.trans same
    cases answered : (executor.environment.describeTags resource world).1 with
    | ok listed => exact ⟨(keeps.lists world listed answered).trans same, unchanged⟩
    | error failure => exact unchanged
  apply Run.Ensures.bind (retry_ensures _ _ _ (keeps.clockKeeps (· = held))
    (.bind acts fun _ => .bind (.note fun _ => id) fun _ => .pure fun _ => id))
  intro answer
  cases answer with
  | ok value => exact .pure fun _ => id
  | error error => exact .pure fun _ => id

/-! ## Ways in which a synchronisation ends -/

/-- How a synchronisation ends, and what it has done until then. -/
inductive Syncs (executor : Executor World) (resource : TagResource)
    (desired observed : TagSet) (policy : RetryPolicy) (session : Session World) :
    Except TagError TagDelta → Session World → Prop where
  /-- There was nothing to change. -/
  | agreed : desired = observed →
      Syncs executor resource desired observed policy session
        (.ok (TagDelta.between desired observed)) session
  /-- The pairs were not all set, as far as is known. -/
  | unreplaced {error : TagError} {final : Session World} :
      executor.replaceTags resource (TagDelta.between desired observed).toReplace policy
        session = some (.error error, final) →
      Syncs executor resource desired observed policy session (.error error) final
  /-- The pairs were set, and the keys were removed or not. -/
  | replaced {answer : Except TagError Unit} {middle final : Session World} :
      executor.replaceTags resource (TagDelta.between desired observed).toReplace policy
        session = some (.ok (), middle) →
      executor.deleteTags resource (TagDelta.between desired observed).toReplace.size
        (TagDelta.between desired observed).toDelete policy middle = some (answer, final) →
      Syncs executor resource desired observed policy session
        (answer.map fun _ => TagDelta.between desired observed) final

theorem syncs_of_syncTags {desired observed : TagSet} {policy : RetryPolicy}
    {session final : Session World} {result : Except TagError TagDelta}
    (ran : executor.syncTags resource desired observed policy session =
      some (result, final)) :
    executor.Syncs resource desired observed policy session result final := by
  rw [syncTags] at ran
  split at ran
  next nothing =>
    cases ran
    exact .agreed (TagDelta.between_isEmpty_iff.1 nothing).symm
  next =>
    obtain ⟨applied, last, ran, returned⟩ := Run.bind_eq_some_iff.1 ran
    cases returned
    obtain ⟨answer, middle, replaced, ran⟩ := Run.bind_eq_some_iff.1 ran
    cases answer with
    | error error =>
        cases ran
        exact .unreplaced replaced
    | ok done => exact .replaced replaced ran

end Executor

/-! ## What a synchronisation sends -/

namespace Event

/-- A call that sends no key on which the tags already agree, or no call at all. -/
def Spares (desired observed : TagSet) : Event → Prop
  | .tagged _ call _ => ∀ key ∈ call.keys, desired.get? key ≠ observed.get? key
  | _ => True

theorem IsTagRead.spares {desired observed : TagSet} {event : Event}
    (reads : event.IsTagRead) : event.Spares desired observed := by
  cases event with
  | tagged _ call _ =>
      intro key sent
      rw [show call = .describe from reads] at sent
      cases sent
  | _ => trivial

/-- To spare the keys on which the tags agree now is to spare those on which they agreed
before, when these still agree. -/
theorem Spares.mono {desired observed listed : TagSet} {event : Event}
    (spares : event.Spares desired listed)
    (kept : ∀ key, desired.get? key = observed.get? key →
      listed.get? key = observed.get? key) : event.Spares desired observed := by
  cases event with
  | tagged _ call _ =>
      intro key sent same
      exact spares key sent (same.trans (kept key same).symm)
  | _ => trivial

/-- An attempt to remove keys. -/
def RemovesKeys : Event → Prop
  | .tagged _ (.delete _) _ => True
  | _ => False

end Event

namespace TagDelta

variable {desired observed : TagSet} {key : String}

theorem ne_of_mem_toReplace (sent : key ∈ (between desired observed).toReplace.keys) :
    desired.get? key ≠ observed.get? key := by
  intro same
  rw [KeyMap.mem_keys_iff, get?_toReplace, if_pos same] at sent
  cases sent

theorem ne_of_mem_toDelete (sent : key ∈ (between desired observed).toDelete.keys) :
    desired.get? key ≠ observed.get? key := by
  intro same
  rw [KeyMap.mem_keys_iff, get?_toDelete, ← same] at sent
  cases wanted : desired.get? key <;> simp [wanted] at sent

end TagDelta

namespace Executor

variable {World : Type} {executor : Executor World} {resource : TagResource}
variable {tags : World → TagSet} {desired observed : TagSet} {policy : RetryPolicy}
variable {session final : Session World} {result : Except TagError TagDelta}

theorem spares_of_syncTags
    (ran : executor.syncTags resource desired observed policy session =
      some (result, final)) :
    Session.Adds (Event.Spares desired observed) session final :=
  executor.syncTags_notes resource desired observed policy
    (fun _ _ => TagDelta.ne_of_mem_toReplace) (fun _ _ => TagDelta.ne_of_mem_toDelete)
    (fun _ _ => trivial) session result final ran

/-- A half of a change of tags that fails names its step. -/
theorem step_of_changeTags {nothing : Bool} {operation : String} {step : TagStep}
    {attempt : Run World (Except RemoteError Unit)} {error : TagError}
    (ran : (if nothing then return .ok ()
      else do
        let answer ← executor.retry operation .write policy attempt
        return answer.mapError fun source => ⟨step, resource.name, source⟩ :
          Run World (Except TagError Unit)) session = some (.error error, final)) :
    error.step = step := by
  cases nothing with
  | true => cases ran
  | false =>
      obtain ⟨answer, middle, called, ran⟩ := Run.bind_eq_some_iff.1 ran
      cases answer with
      | ok done => cases ran
      | error source =>
          cases ran
          rfl

/-! ## What a synchronisation leaves -/

/-- What has become of the observed tags when a synchronisation ends. -/
def Settles (tags : World → TagSet) (desired observed : TagSet)
    (session final : Session World) : Except TagError TagDelta → Prop
  | .ok delta => delta = .between desired observed ∧ tags final.world = desired
  | .error error =>
      match error.step with
      | .describe => False
      | .replace =>
          Session.Adds (fun event => ¬event.RemovesKeys) session final ∧
          (tags final.world = observed ∨
            tags final.world = observed.insertAll (TagDelta.between desired observed).toReplace)
      | .delete replaced =>
          replaced = (TagDelta.between desired observed).toReplace.size ∧
          (tags final.world =
              observed.insertAll (TagDelta.between desired observed).toReplace ∨
            tags final.world = desired)

theorem settles_of_syncTags (keeps : executor.environment.KeepsTags resource tags)
    (start : tags session.world = observed)
    (ran : executor.syncTags resource desired observed policy session =
      some (result, final)) :
    Settles tags desired observed session final result := by
  cases syncs_of_syncTags ran with
  | agreed same => exact ⟨rfl, start.trans same.symm⟩
  | unreplaced replaced =>
      have left := (replaceTags_leaves keeps _ policy).meets (.inl start) replaced
      have quiet : Session.Adds (fun event => ¬event.RemovesKeys) session final :=
        executor.replaceTags_notes resource _ policy (fun _ => id) (fun _ _ => id) _ _ _
          replaced
      rw [replaceTags] at replaced
      rw [Settles, step_of_changeTags replaced]
      exact ⟨quiet, left⟩
  | @replaced answer middle final replaced deleted =>
      have set := (replaceTags_leaves keeps _ policy).meets (.inl start) replaced
      have left := (deleteTags_leaves keeps _ _ policy).meets (.inl rfl) deleted
      have complete : (TagCall.delete (TagDelta.between desired observed).toDelete).applied
          (tags middle.world) = desired := by
        rw [set]
        exact TagDelta.eraseAll_insertAll desired observed
      cases answer with
      | ok done => exact ⟨rfl, left.trans complete⟩
      | error error =>
          rw [deleteTags] at deleted
          rw [Except.map, Settles, step_of_changeTags deleted]
          refine ⟨rfl, ?_⟩
          cases left with
          | inl kept => exact .inl (kept.trans set)
          | inr removed => exact .inr (removed.trans complete)

/-- A key on which the tags agreed is as it was, however a synchronisation ended. -/
theorem get?_of_settles {key : String}
    (settles : Settles tags desired observed session final result)
    (same : desired.get? key = observed.get? key) :
    (tags final.world).get? key = observed.get? key := by
  have unset : (observed.insertAll (TagDelta.between desired observed).toReplace).get? key =
      observed.get? key := by
    rw [KeyMap.get?_insertAll, TagDelta.get?_toReplace, if_pos same, Option.none_or]
  cases result with
  | ok delta => rw [settles.2, same]
  | error error =>
      rw [Settles] at settles
      split at settles
      next => cases settles
      next =>
        cases settles.2 with
        | inl kept => rw [kept]
        | inr set => rw [set, unset]
      next =>
        cases settles.2 with
        | inl set => rw [set, unset]
        | inr done => rw [done, same]

/-- What is known of a synchronisation: how it settles the tags, which keys it sends, and
that another one, of the tags as they are listed afterwards, picks up the rest. -/
structure Recovers (executor : Executor World) (resource : TagResource)
    (tags : World → TagSet) (desired observed : TagSet) (session : Session World)
    (result : Except TagError TagDelta) (final : Session World) : Prop where
  settles : Settles tags desired observed session final result
  spares : Session.Adds (Event.Spares desired observed) session final
  /-- Another synchronisation that succeeds leads to the desired tags, whatever happened in
  between. -/
  resumes : ∀ {again listing last : Session World} {listed : TagSet} {delta : TagDelta}
    {reading policy : RetryPolicy},
    executor.describeTags resource reading again = some (.ok listed, listing) →
    executor.syncTags resource desired listed policy listing = some (.ok delta, last) →
    tags last.world = desired
  /-- Unless the tags have been changed in between, it does not send the keys on which the
  tags agreed in the first place either. -/
  sparesAgain : ∀ {again listing last : Session World} {listed : TagSet}
    {answer : Except TagError TagDelta} {reading policy : RetryPolicy},
    tags again.world = tags final.world →
    executor.describeTags resource reading again = some (.ok listed, listing) →
    executor.syncTags resource desired listed policy listing = some (answer, last) →
    Session.Adds (Event.Spares desired observed) again last

/-- Where the tag service keeps the tags, a synchronisation of the tags as they are can be
recovered from wherever it stops. -/
theorem recovers_of_syncTags (keeps : executor.environment.KeepsTags resource tags)
    (start : tags session.world = observed)
    (ran : executor.syncTags resource desired observed policy session =
      some (result, final)) :
    executor.Recovers resource tags desired observed session result final where
  settles := settles_of_syncTags keeps start ran
  spares := spares_of_syncTags ran
  resumes := by
    intro again listing last listed delta reading policy described synced
    have seen := (describeTags_lists keeps _ reading).meets rfl described
    exact (settles_of_syncTags keeps (seen.2.trans seen.1.symm) synced).2
  sparesAgain := by
    intro again listing last listed answer reading policy same described synced
    have seen := (describeTags_lists keeps _ reading).meets rfl described
    have reads : Session.Adds (Event.Spares desired observed) again listing :=
      (executor.describeTags_notes resource reading).mono (fun _ => Event.IsTagRead.spares)
        _ _ _ described
    have kept (key : String) (agreed : desired.get? key = observed.get? key) :
        listed.get? key = observed.get? key := by
      rw [seen.1, same]
      exact get?_of_settles (settles_of_syncTags keeps start ran) agreed
    obtain ⟨events, grown, spare⟩ := spares_of_syncTags synced
    exact reads.trans ⟨events, grown, fun event member => (spare event member).mono kept⟩

end Executor

namespace Simulation

/-- A tag service that holds the tags of one resource.  The next calls that change them
fail as planned, with or without taking effect. -/
structure TagStore where
  tags : TagSet
  /-- For each of the next calls its failure, if any, and whether it takes effect all the
  same. -/
  plan : List (Option (RemoteError × Bool)) := []

namespace TagStore

/-- An attempt to change the tags. -/
def attempt (call : TagCall) (store : TagStore) : Except RemoteError Unit × TagStore :=
  match store.plan.headD none with
  | none => (.ok (), ⟨call.applied store.tags, store.plan.tail⟩)
  | some (failure, true) => (.error failure, ⟨call.applied store.tags, store.plan.tail⟩)
  | some (failure, false) => (.error failure, ⟨store.tags, store.plan.tail⟩)

theorem attempt_takes (call : TagCall) (store : TagStore) :
    call.Takes store.tags (store.attempt call).1 (store.attempt call).2.tags := by
  rw [attempt]
  split
  next => exact .inl rfl
  next => exact .inl rfl
  next failure _ => exact .inr ⟨⟨failure, rfl⟩, rfl⟩

/-- An outside that consists of the tags only. -/
def environment : Environment TagStore where
  now store := (0, store)
  date _ := World.date
  cancelled _ := false
  sleep _ store := (true, store)
  draw store := ((World.environment.draw {}).1, store)
  send _ store := (.error (.transport "no route" none), store)
  describeTags _ store := (.ok store.tags, store)
  replaceTags _ pairs store := store.attempt (.replace pairs)
  deleteTags _ keys store := store.attempt (.delete keys)

theorem keepsTags (resource : TagResource) : environment.KeepsTags resource tags where
  now _ := rfl
  sleep _ _ := rfl
  draw _ := rfl
  replace pairs store := store.attempt_takes (.replace pairs)
  delete keys store := store.attempt_takes (.delete keys)
  describe _ := .inl rfl
  lists _ _ answered := by
    cases answered
    rfl

/-- Whoever changes tags does so with the standard classification of failures. -/
def executor : Executor TagStore :=
  ⟨environment, .standard, World.rounds⟩

/-- A resource with tags. -/
def resource : TagResource :=
  ⟨"db", "instance", "", "d1"⟩

/-- The tags in production. -/
def production : TagSet :=
  .ofList [("env", "prod"), ("pager", "on"), ("team", "a")]

/-- The tags in staging. -/
def staging : TagSet :=
  .ofList [("env", "staging"), ("team", "a")]

/-- The first attempt to set pairs takes effect although the service reports that it is
busy, and the removal of keys takes effect although its answer is not understood. -/
def troubled : TagStore :=
  ⟨production, [some (.api "ResourceBusy" "try again" none, true), none,
    some (.decode "no answer", true)]⟩

/-- The tags of a resource that moves to staging. -/
def move : Option (Except TagError TagDelta × Session TagStore) :=
  executor.syncTags resource staging production .write (.fresh troubled)

theorem move_ends : move.isSome = true := by
  decide +kernel

theorem move_recovers :
    executor.environment.KeepsTags resource tags ∧ troubled.tags = production ∧
    (move.map fun ended =>
      (ended.1.isOk, ended.2.world.tags, ended.2.requests.length)) =
      some (false, staging, 3) ∧
    executor.Recovers resource tags staging production (.fresh troubled)
      (move.get move_ends).1 (move.get move_ends).2 :=
  ⟨keepsTags resource, rfl, by decide +kernel,
    Executor.recovers_of_syncTags (keepsTags resource) rfl (Option.some_get move_ends).symm⟩

end TagStore

end Simulation

end ControlLoop
