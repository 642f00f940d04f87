import Campus.Proofs.Service.Calls
import Campus.Proofs.Service.Turns
import Campus.Service.Concurrency
import Mathlib.Logic.Function.Basic
/-!
# Calls that are under way at the same time

Any number of calls change one service, and their stages come in any order. The lock of a call is in
the phase that its stage tells, so two calls between getting and releasing their locks are about
different ids, whatever the others do.
-/

namespace Campus

namespace Change

/-- Whether a change is an addition. -/
def isAddition : Change → Bool
  | add _ _ _ => true
  | remove _ => false

/-- The call that asks for a change. -/
def call : Change → ServiceCall
  | add id kind upload => .add id kind upload
  | remove id => .remove id

end Change

namespace Stage

/-- What a call does with its lock at a stage. -/
def phase? : Stage → Option WriterPhase
  | called | done _ => none
  | waiting => some .waiting
  | checking | ingesting | writing _ | listing | releasing _ => some .holding
  | clearing _ => some .released

/-- Whether a call whose stage is followed by another has changed what is on the shelf. -/
def commits : Stage → Stage → Bool
  | writing _, listing | writing _, releasing (.ok _) => true
  | _, _ => false

end Stage

/-- A service with calls under way. -/
structure Traffic where
  shared : SharedService
  /-- Where the call of each number stands. -/
  stages : Nat → Stage
  /-- The calls that have changed what is on the shelf, in this order. -/
  commits : List Nat

namespace Traffic

/-- The store of a service with calls under way. -/
abbrev store (traffic : Traffic) : Store := traffic.shared.service.store

/-- A service to which no call has been made. -/
def start (service : Service) : Traffic := ⟨⟨service, .empty⟩, fun _ => .called, []⟩

/-- The next stage of one of the calls, which are told apart by numbers. -/
def step (calls : Nat → Surroundings × Change) (traffic : Traffic) (number : Nat) : Traffic :=
  let before := traffic.stages number
  let after := before.next (calls number).1 number (calls number).2 traffic.shared
  { shared := after.1
    stages := Function.update traffic.stages number after.2
    commits := if before.commits after.2 then traffic.commits ++ [number] else traffic.commits }

/-- The next stages of the calls, in some order. -/
def run (calls : Nat → Surroundings × Change) (traffic : Traffic) (schedule : List Nat) : Traffic :=
  schedule.foldl (step calls) traffic

/-- A call goes on to the next stage. -/
theorem stages_step_self (calls : Nat → Surroundings × Change) (traffic : Traffic) (number : Nat) :
    (traffic.step calls number).stages number =
      ((traffic.stages number).next (calls number).1 number (calls number).2 traffic.shared).2 :=
  Function.update_self ..

/-- The other calls stand where they stood. -/
theorem stages_step_of_ne (calls : Nat → Surroundings × Change) (traffic : Traffic)
    {number other : Nat} (differs : other ≠ number) :
    (traffic.step calls number).stages other = traffic.stages other :=
  Function.update_of_ne differs _ _

/-- No other call commits. -/
theorem mem_commits_step_of_ne (calls : Nat → Surroundings × Change) (traffic : Traffic)
    {number other : Nat} (differs : other ≠ number) :
    other ∈ (traffic.step calls number).commits ↔ other ∈ traffic.commits := by
  simp only [step]
  split
  · rw [List.mem_append, List.mem_singleton, or_iff_left differs]
  · rfl

/-- A call that has not committed may commit. -/
theorem nodup_commits_step {traffic : Traffic} {number : Nat} (nodup : traffic.commits.Nodup)
    (uncommitted : number ∉ traffic.commits) (calls : Nat → Surroundings × Change) :
    (traffic.step calls number).commits.Nodup := by
  simp only [step]
  split
  · rw [← List.concat_eq_append]
    exact nodup.concat uncommitted
  · exact nodup

end Traffic

namespace WriterLocks

variable {locks : WriterLocks} {number : Nat}

/-- A new writer waits, and the others do what they did. -/
theorem phase?_arrive (new : locks.phase? number = none) (id : String) (other : Nat) :
    (locks.arrive number id).phase? other =
      if other = number then some .waiting else locks.phase? other := by
  have joined (lock : Nat) : ((locks.writers ++ [(⟨number, id, lock, .waiting⟩ : Writer)]).find?
      fun writer => writer.number == other).map Writer.phase =
        if other = number then some .waiting else locks.phase? other := by
    rw [List.find?_append, Option.map_or]
    change (locks.phase? other).or _ = _
    by_cases same : other = number
    · rw [same, new, if_pos rfl]
      simp
    · rw [if_neg same]
      simp [Ne.symm same]
  rw [arrive]
  split <;> exact joined _

/-- A writer goes into another phase, and the others do what they did. -/
theorem phase?_move (phase : WriterPhase) (other : Nat) :
    (locks.move number phase).phase? other =
      if other = number then (locks.phase? other).map fun _ => phase else locks.phase? other := by
  have numbers : (fun writer : Writer => writer.number == other) ∘
      (fun writer => if writer.number = number then { writer with phase } else writer) =
        fun writer => writer.number == other := by
    funext writer
    simp only [Function.comp_apply]
    split <;> rfl
  have phases : (locks.move number phase).phase? other = (locks.writer? other).map fun writer =>
      if writer.number = number then phase else writer.phase := by
    simp only [phase?, writer?, move, List.find?_map, numbers, Option.map_map]
    congr 1
    funext writer
    simp only [Function.comp_apply]
    split <;> rfl
  rw [phases, phase?, Option.map_map]
  cases found : locks.writer? other with
  | none => simp
  | some writer =>
    have own : writer.number = other := by simpa using List.find?_some found
    simp only [Option.map_some, own, Function.comp_apply]
    split <;> rfl

/-- A writer goes, and the others do what they did. -/
theorem phase?_drop (locks : WriterLocks) (number other : Nat) :
    (locks.drop number).phase? other =
      if other = number then none else locks.phase? other := by
  simp only [phase?, writer?, drop, List.find?_filter]
  split
  · next same =>
    rw [same, Option.map_eq_none_iff, List.find?_eq_none]
    simp
  · next differs =>
    congr 2
    funext writer
    by_cases own : writer.number = other
    · simp [own, differs]
    · simp [own]

/-- A writer clears the table and goes, and the others do what they did. -/
theorem phase?_clear (other : Nat) :
    (locks.clear number).phase? other =
      if other = number then none else locks.phase? other := by
  unfold clear
  cases found : locks.writer? number with
  | none =>
    dsimp only
    split
    · next same => rw [same, phase?, found, Option.map_none]
    · rfl
  | some writer =>
    have others := phase?_drop locks number other
    dsimp only
    split
    · split <;> exact others
    · exact others

/-- Every writer writes the id that is given for its number. -/
def Serves (locks : WriterLocks) (ids : Nat → String) : Prop :=
  ∀ writer ∈ locks.writers, writer.id = ids writer.number

namespace Serves

variable {ids : Nat → String}

/-- A new writer may come for its id. -/
theorem arrive (serves : locks.Serves ids) (number : Nat) :
    (locks.arrive number (ids number)).Serves ids := by
  have joined (lock : Nat) : ∀ writer ∈
      locks.writers ++ [(⟨number, ids number, lock, .waiting⟩ : Writer)],
      writer.id = ids writer.number := by
    intro writer member
    rcases List.mem_append.1 member with old | last
    · exact serves writer old
    · rw [List.mem_singleton.1 last]
  unfold WriterLocks.arrive
  split <;> exact joined _

/-- A writer may go into another phase. -/
theorem move (serves : locks.Serves ids) (number : Nat) (phase : WriterPhase) :
    (locks.move number phase).Serves ids := by
  intro writer member
  obtain ⟨old, there, rfl⟩ := List.mem_map.1 member
  split <;> exact serves old there

/-- A writer may clear the table and go. -/
theorem clear (serves : locks.Serves ids) (number : Nat) : (locks.clear number).Serves ids := by
  have others : (locks.drop number).Serves ids :=
    fun writer member => serves writer (List.mem_of_mem_filter member)
  unfold WriterLocks.clear
  split
  · dsimp only
    split
    · split <;> exact others
    · exact others
  · exact serves

end Serves
end WriterLocks

namespace Stage

/-- What a stage of a call does to the locks: what the call does with its lock next, or nothing. -/
theorem locks_next (surroundings : Surroundings) (number : Nat) (change : Change)
    (shared : SharedService) (stage : Stage) :
    let after := stage.next surroundings number change shared
    (after.1.locks = shared.locks ∧ after.2.phase? = stage.phase?) ∨
      (stage.phase? = none ∧ after.1.locks = shared.locks.arrive number change.id ∧
        after.2.phase? = some .waiting) ∨
      (stage.phase? = some .waiting ∧ shared.locks.enter? number = some after.1.locks ∧
        after.2.phase? = some .holding) ∨
      (stage.phase? = some .holding ∧ after.1.locks = shared.locks.release number ∧
        after.2.phase? = some .released) ∨
      (stage.phase? = some .released ∧ after.1.locks = shared.locks.clear number ∧
        after.2.phase? = none) := by
  cases stage with
  | called =>
    simp only [next]
    split
    · exact .inr (.inl ⟨rfl, rfl, rfl⟩)
    · exact .inl ⟨rfl, rfl⟩
  | waiting =>
    simp only [next]
    split
    · next entered => cases change <;> exact .inr (.inr (.inl ⟨rfl, entered, rfl⟩))
    · exact .inl ⟨rfl, rfl⟩
  | checking =>
    simp only [next]
    split <;> exact .inl ⟨rfl, rfl⟩
  | ingesting =>
    cases change with
    | add id kind upload =>
      simp only [next]
      split <;> exact .inl ⟨rfl, rfl⟩
    | remove id => exact .inl ⟨rfl, rfl⟩
  | writing write =>
    refine .inl ⟨rfl, ?_⟩
    simp only [next]
    cases (write.stage surroundings.device shared.service.store).2 with
    | error error => rfl
    | ok outcome =>
      cases outcome with
      | inl following => rfl
      | inr found =>
        cases change with
        | add id kind upload => rfl
        | remove id => cases found <;> rfl
  | listing => exact .inl ⟨rfl, rfl⟩
  | releasing result => exact .inr (.inr (.inr (.inl ⟨rfl, rfl, rfl⟩)))
  | clearing result => exact .inr (.inr (.inr (.inr ⟨rfl, rfl, rfl⟩)))
  | done result => exact .inl ⟨rfl, rfl⟩

end Stage

namespace Traffic

variable {calls : Nat → Surroundings × Change} {traffic : Traffic}

/-- Every call has the lock of its id in the phase that its stage tells. -/
structure TakesTurns (calls : Nat → Surroundings × Change) (traffic : Traffic) : Prop where
  sound : traffic.shared.locks.IsSound
  phases : ∀ number, traffic.shared.locks.phase? number = (traffic.stages number).phase?
  ids : traffic.shared.locks.Serves fun number => (calls number).2.id

/-- Before the first call there is nobody to take turns with. -/
theorem takesTurns_start (calls : Nat → Surroundings × Change) (service : Service) :
    TakesTurns calls (start service) :=
  ⟨.empty, fun _ => rfl, fun _ member => absurd member List.not_mem_nil⟩

/-- After any stage of any call the calls still take turns. -/
theorem takesTurns_step (turns : traffic.TakesTurns calls) (number : Nat) :
    (traffic.step calls number).TakesTurns calls := by
  have own := turns.phases number
  have moves := (traffic.stages number).locks_next (calls number).1 number (calls number).2
    traffic.shared
  simp only [step]
  generalize (traffic.stages number).next (calls number).1 number (calls number).2
    traffic.shared = after at moves ⊢
  obtain ⟨⟨service, locks⟩, stage⟩ := after
  dsimp only at moves ⊢
  have phases (moved : ∀ other, locks.phase? other =
        if other = number then stage.phase? else traffic.shared.locks.phase? other) :
      ∀ other, locks.phase? other = (Function.update traffic.stages number stage other).phase? := by
    intro other
    rw [moved]
    by_cases same : other = number
    · rw [if_pos same, same, Function.update_self]
    · rw [if_neg same, Function.update_of_ne same, turns.phases]
  rcases moves with ⟨rfl, phase⟩ | ⟨before, rfl, phase⟩ | ⟨before, entered, phase⟩ |
    ⟨before, rfl, phase⟩ | ⟨before, rfl, phase⟩
  · refine ⟨turns.sound, phases fun other => ?_, turns.ids⟩
    rw [phase, ← own]
    split
    · next same => rw [same]
    · rfl
  · have new : traffic.shared.locks.phase? number = none := own.trans before
    refine ⟨turns.sound.arrive new _, phases fun other => ?_,
      turns.ids.arrive number⟩
    rw [phase]
    exact WriterLocks.phase?_arrive new _ other
  · obtain ⟨-, -, -, -, moved⟩ := WriterLocks.enter?_eq_some_iff.1 entered
    have made : traffic.shared.locks.step? (.enter number) = some locks := entered
    refine ⟨turns.sound.step made, phases fun other => ?_, ?_⟩
    · rw [moved, WriterLocks.phase?_move, phase]
      split
      · next same => rw [same, own, before, Option.map_some]
      · rfl
    · rw [moved]
      exact turns.ids.move number _
  · have holds : traffic.shared.locks.phase? number = some .holding := own.trans before
    have made : traffic.shared.locks.step? (.release number) =
        some (traffic.shared.locks.release number) := if_pos holds
    refine ⟨turns.sound.step made, phases fun other => ?_, turns.ids.move number _⟩
    rw [WriterLocks.release, WriterLocks.phase?_move, phase]
    split
    · next same => rw [same, own, before, Option.map_some]
    · rfl
  · refine ⟨turns.sound.clear number, phases fun other => ?_, turns.ids.clear number⟩
    rw [WriterLocks.phase?_clear, phase]

/-- Two calls that have their locks at the same time are about different ids. -/
theorem eq_of_holding (turns : traffic.TakesTurns calls) {left right : Nat}
    (leftHolds : (traffic.stages left).phase? = some .holding)
    (rightHolds : (traffic.stages right).phase? = some .holding)
    (same : (calls left).2.id = (calls right).2.id) : left = right := by
  obtain ⟨l, leftMember, rfl, leftPhase⟩ := (WriterLocks.phase?_eq_some_iff
    turns.sound.distinct).1 ((turns.phases left).trans leftHolds)
  obtain ⟨r, rightMember, rfl, rightPhase⟩ := (WriterLocks.phase?_eq_some_iff
    turns.sound.distinct).1 ((turns.phases right).trans rightHolds)
  have leftLock := turns.sound.current l leftMember (WriterLocks.hasHandle_iff.2 (.inr leftPhase))
  have rightLock := turns.sound.current r rightMember
    (WriterLocks.hasHandle_iff.2 (.inr rightPhase))
  have sameId : l.id = r.id :=
    (turns.ids l leftMember).trans (same.trans (turns.ids r rightMember).symm)
  rw [sameId, rightLock] at leftLock
  rw [turns.sound.exclusive l leftMember r rightMember leftPhase rightPhase
    (Option.some.inj leftLock).symm]

end Traffic
end Campus
