import ControlLoop.Environment

/-!
# Laws of runs

A run that ends has an answer and a final session.  The laws here take a sequence
of runs apart, and bound what a run notes in the journal: `Run.Notes` holds of a
run when it only adds events of a kind, and is kept by every way of putting runs
together.
-/

namespace ControlLoop

namespace Event

/-- An attempt of a call for a purpose, or a sleep between two attempts. -/
def IsCall (purpose : Purpose) : Event → Prop
  | .called made _ _ => made = purpose
  | .slept _ _ => True
  | _ => False

/-- An attempt to list tags, or a sleep between two attempts. -/
def IsTagRead : Event → Prop
  | .tagged _ call _ => call = .describe
  | .slept _ _ => True
  | _ => False

/-- An attempt to change tags, or a sleep between two attempts. -/
def IsTagChange : Event → Prop
  | .tagged _ call _ => call ≠ .describe
  | .slept _ _ => True
  | _ => False

end Event

namespace Session

variable {World : Type} {kind : Event → Prop}

/-- Only events of a kind were added to the journal between two sessions. -/
def Adds (kind : Event → Prop) (session final : Session World) : Prop :=
  ∃ events, final.journal = events ++ session.journal ∧ ∀ event ∈ events, kind event

theorem Adds.refl (session : Session World) : Adds kind session session :=
  ⟨[], rfl, nofun⟩

theorem Adds.of_cons {session final : Session World} {event : Event}
    (journal : final.journal = event :: session.journal) (isKind : kind event) :
    Adds kind session final :=
  ⟨[event], journal, by simpa using isKind⟩

theorem Adds.trans {first middle last : Session World} (earlier : Adds kind first middle)
    (later : Adds kind middle last) : Adds kind first last := by
  rcases earlier with ⟨events, grown, areKind⟩
  rcases later with ⟨events', grown', areKind'⟩
  refine ⟨events' ++ events, ?_, ?_⟩
  · rw [grown', grown, List.append_assoc]
  · intro event member
    rcases List.mem_append.1 member with new | old
    · exact areKind' event new
    · exact areKind event old

/-- What holds of every event so far and of those that are added holds of all of
them. -/
theorem Adds.forall_mem {property : Event → Prop} {session final : Session World}
    (adds : Adds kind session final) (before : ∀ event ∈ session.journal, property event)
    (added : ∀ event, kind event → property event) :
    ∀ event ∈ final.journal, property event := by
  rcases adds with ⟨events, grown, areKind⟩
  intro event member
  rw [grown] at member
  rcases List.mem_append.1 member with new | old
  · exact added event (areKind event new)
  · exact before event old

/-- An event of a kind was added to the journal between two sessions. -/
def Gains (kind : Event → Prop) (session final : Session World) : Prop :=
  ∃ events, final.journal = events ++ session.journal ∧ ∃ event ∈ events, kind event

theorem Gains.of_cons {session final : Session World} {event : Event}
    (journal : final.journal = event :: session.journal) (isKind : kind event) :
    Gains kind session final :=
  ⟨[event], journal, event, List.mem_singleton_self event, isKind⟩

/-- What was added stays, whatever is added later. -/
theorem Gains.before {other : Event → Prop} {first middle last : Session World}
    (gains : Gains kind first middle) (later : Adds other middle last) :
    Gains kind first last := by
  obtain ⟨events, grown, event, member, isKind⟩ := gains
  obtain ⟨events', grown', -⟩ := later
  refine ⟨events' ++ events, ?_, event, List.mem_append_right events' member, isKind⟩
  rw [grown', grown, List.append_assoc]

theorem Gains.after {other : Event → Prop} {first middle last : Session World}
    (earlier : Adds other first middle) (gains : Gains kind middle last) :
    Gains kind first last := by
  obtain ⟨events, grown, -⟩ := earlier
  obtain ⟨events', grown', event, member, isKind⟩ := gains
  refine ⟨events' ++ events, ?_, event, List.mem_append_left events member, isKind⟩
  rw [grown', grown, List.append_assoc]

end Session

namespace Run

variable {World α β : Type}
variable {session final : Session World}

/-! ## Taking runs apart -/

theorem bind_eq_some_iff {run : Run World α} {next : α → Run World β} {result : β} :
    (run >>= next) session = some (result, final) ↔
      ∃ answer middle, run session = some (answer, middle) ∧
        next answer middle = some (result, final) := by
  simp [bind, StateT.bind, Option.bind_eq_some_iff]

/-- A run that has ended is followed by the next one from where it ended. -/
theorem bind_of_eq_some {run : Run World α} {next : α → Run World β} {answer : α}
    {middle : Session World} (ran : run session = some (answer, middle)) :
    (run >>= next) session = next answer middle := by
  simp [bind, StateT.bind, ran]

/-- What follows a run matters only where the run ends. -/
theorem bind_congr {run : Run World α} {next other : α → Run World β}
    (same : ∀ answer middle, run session = some (answer, middle) →
      next answer middle = other answer middle) :
    (run >>= next) session = (run >>= other) session := by
  cases ran : run session with
  | none => simp [bind, StateT.bind, ran]
  | some ended => rw [bind_of_eq_some ran, bind_of_eq_some ran, same _ _ ran]

/-! ## What runs note -/

/-- A run that only adds events of a kind to the journal. -/
def Notes (run : Run World α) (kind : Event → Prop) : Prop :=
  ∀ session result final, run session = some (result, final) →
    Session.Adds kind session final

/-- A run that notes one event, which tells its answer. -/
def NotesAnswer (run : Run World α) (event : α → Event) : Prop :=
  ∀ session answer final, run session = some (answer, final) →
    final.journal = event answer :: session.journal

namespace Notes

variable {kind other : Event → Prop}

theorem pure (answer : α) : (pure answer : Run World α).Notes kind := by
  intro session result final ran
  cases ran
  exact .refl session

theorem outOfRounds : (Run.outOfRounds : Run World α).Notes kind := by
  intro session result final ran
  cases ran

theorem look (view : World → α) : (Run.look view).Notes kind := by
  intro session result final ran
  cases ran
  exact ⟨[], rfl, by simp⟩

theorem act (action : World → α × World) : (Run.act action).Notes kind := by
  intro session result final ran
  cases ran
  exact ⟨[], rfl, by simp⟩

theorem note {event : Event} (isKind : kind event) :
    (Run.note event : Run World Unit).Notes kind := by
  intro session result final ran
  cases ran
  exact ⟨[event], rfl, by simpa using isKind⟩

theorem bind {run : Run World α} {next : α → Run World β}
    (first : run.Notes kind) (later : ∀ answer, (next answer).Notes kind) :
    (run >>= next).Notes kind := by
  intro session result final ran
  rcases bind_eq_some_iff.1 ran with ⟨answer, middle, ranFirst, ranLater⟩
  have before := first session answer middle ranFirst
  have after := later answer middle result final ranLater
  exact before.trans after

theorem mono {run : Run World α} (notes : run.Notes kind)
    (weaker : ∀ event, kind event → other event) : run.Notes other := by
  intro session result final ran
  rcases notes session result final ran with ⟨events, grown, areKind⟩
  exact ⟨events, grown, fun event member => weaker event (areKind event member)⟩

end Notes

end Run

namespace Environment

variable {World α : Type} {kind : Event → Prop}

theorem isCancelled_notes (environment : Environment World) :
    environment.isCancelled.Notes kind :=
  .look _

theorem time_notes (environment : Environment World) : environment.time.Notes kind :=
  .act _

theorem rest_notes (environment : Environment World)
    (sleeps : ∀ duration completed, kind (.slept duration completed))
    (duration : Duration) : (environment.rest duration).Notes kind :=
  .bind (.act _) fun completed =>
    .bind (.note (sleeps duration completed)) fun _ => .pure completed

theorem rest_journal {environment : Environment World} {session final : Session World}
    {duration : Duration} {completed : Bool}
    (slept : environment.rest duration session = some (completed, final)) :
    final.journal = .slept duration completed :: session.journal := by
  cases slept
  rfl

theorem pauseFor_notes (environment : Environment World) (policy : RetryPolicy)
    (attempt : Nat) : (environment.pauseFor policy attempt).Notes kind := by
  rw [pauseFor]
  split
  · exact .bind (.act _) fun draw => .pure _
  · exact .pure _

theorem call_notes (environment : Environment World) (purpose : Purpose)
    (request : Request) :
    (environment.call purpose request).Notes (Event.IsCall purpose) :=
  .bind (.act _) fun _ => .bind (.note rfl) fun _ => .pure _

theorem call_notesAnswer (environment : Environment World) (purpose : Purpose)
    (request : Request) :
    (environment.call purpose request).NotesAnswer (.called purpose request) := by
  intro session answer final ran
  cases ran
  rfl

theorem callTags_notesAnswer (resource : TagResource) (call : TagCall)
    (action : World → Except RemoteError α × World) :
    (callTags resource call action).NotesAnswer fun answer =>
      .tagged resource call (failureOf answer) := by
  intro session answer final ran
  cases ran
  rfl

theorem callTags_notes (resource : TagResource) (call : TagCall)
    (action : World → Except RemoteError α × World)
    (isKind : ∀ failure, kind (.tagged resource call failure)) :
    (callTags resource call action).Notes kind :=
  .bind (.act _) fun answer => .bind (.note (isKind (failureOf answer))) fun _ => .pure _

end Environment

end ControlLoop
