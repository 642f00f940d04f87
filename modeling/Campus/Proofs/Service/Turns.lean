import Campus.Proofs.Data.Keyed
import Campus.Service.WriterLocks
import Mathlib.Data.List.Nodup
/-!
# Writers take turns

The steps of any number of writers may come in any order, as long as each writer makes its own steps
in turn. What carries all of them is that the lock in the table is the lock of everybody with a
handle: an entry goes only when nobody has a handle of its lock, and whoever comes next makes a
fresh one. So no id ever has two locks that somebody holds or waits for.
-/

namespace Campus

/-- What a writer does next with the locks. -/
inductive WriterStep
  /-- A new writer takes a handle of the lock for an id. -/
  | arrive (number : Nat) (id : String)
  /-- A waiting writer gets its lock. -/
  | enter (number : Nat)
  /-- A waiting writer gives up. -/
  | giveUp (number : Nat)
  /-- A writer that holds its lock releases it. -/
  | release (number : Nat)
  /-- A writer that has released its lock clears the table. -/
  | clear (number : Nat)

namespace WriterLocks

variable {locks after : WriterLocks} {number : Nat} {id : String} {phase : WriterPhase}

/-- What a writer is doing, if it is there. -/
def phase? (locks : WriterLocks) (number : Nat) : Option WriterPhase :=
  (locks.writer? number).map Writer.phase

/-- The locks after a step, if the writer can make that step. -/
def step? (locks : WriterLocks) : WriterStep → Option WriterLocks
  | .arrive number id =>
    if locks.phase? number = none then some (locks.arrive number id) else none
  | .enter number => locks.enter? number
  | .giveUp number =>
    if locks.phase? number = some .waiting then some (locks.giveUp number) else none
  | .release number =>
    if locks.phase? number = some .holding then some (locks.release number) else none
  | .clear number =>
    if locks.phase? number = some .released then some (locks.clear number) else none

/-- The locks after some steps, if each of them can be made. -/
def run? (locks : WriterLocks) (steps : List WriterStep) : Option WriterLocks :=
  steps.foldlM step? locks

/-- The locks of a table that serves everybody with a handle. -/
structure IsSound (locks : WriterLocks) : Prop where
  /-- No two writers have the same number. -/
  distinct : (locks.writers.map Writer.number).Nodup
  /-- A handle is one of the lock that the table has for the id. -/
  current : ∀ writer ∈ locks.writers, writer.hasHandle = true →
    locks.table.get? writer.id = some writer.lock
  /-- The next lock to be made is a new one. -/
  made : ∀ id lock, locks.table.get? id = some lock → lock < locks.fresh
  /-- No two ids share a lock. -/
  separate : ∀ id other lock, locks.table.get? id = some lock →
    locks.table.get? other = some lock → id = other
  /-- A lock is held by one writer at most. -/
  exclusive : ∀ left ∈ locks.writers, ∀ right ∈ locks.writers, left.phase = .holding →
    right.phase = .holding → left.lock = right.lock → left = right

/-- A writer with a handle waits or holds its lock. -/
theorem hasHandle_iff {writer : Writer} :
    writer.hasHandle = true ↔ writer.phase = .waiting ∨ writer.phase = .holding := by
  unfold Writer.hasHandle
  cases writer.phase <;> decide

/-- Somebody has a handle of a used lock. -/
theorem isUsed_iff {lock : Nat} :
    locks.isUsed lock = true ↔
      ∃ writer ∈ locks.writers, writer.lock = lock ∧ writer.hasHandle = true := by
  simp only [isUsed, List.any_eq_true, Bool.and_eq_true, beq_iff_eq]

/-- Somebody holds a held lock. -/
theorem isHeld_iff {lock : Nat} :
    locks.isHeld lock = true ↔
      ∃ writer ∈ locks.writers, writer.lock = lock ∧ writer.phase = .holding := by
  simp only [isHeld, List.any_eq_true, Bool.and_eq_true, beq_iff_eq]

/-- Where numbers differ a writer is found under its own. -/
theorem writer?_eq_some_iff (distinct : (locks.writers.map Writer.number).Nodup)
    {writer : Writer} :
    locks.writer? number = some writer ↔ writer ∈ locks.writers ∧ writer.number = number := by
  constructor
  · intro found
    exact ⟨List.mem_of_find?_eq_some found, by simpa using List.find?_some found⟩
  · rintro ⟨member, rfl⟩
    have some : (locks.writer? writer.number).isSome := by
      rw [writer?, List.find?_isSome]
      exact ⟨writer, member, beq_self_eq_true _⟩
    obtain ⟨other, found⟩ := Option.isSome_iff_exists.1 some
    have same : other.number = writer.number := by simpa using List.find?_some found
    rw [found, List.inj_on_of_nodup_map distinct (List.mem_of_find?_eq_some found) member same]

/-- A number that no writer has. -/
theorem phase?_eq_none_iff :
    locks.phase? number = none ↔ ∀ writer ∈ locks.writers, writer.number ≠ number := by
  simp only [phase?, writer?, Option.map_eq_none_iff, List.find?_eq_none, beq_iff_eq, ne_eq]

/-- Where numbers differ they tell what a writer is doing. -/
theorem phase?_eq_some_iff (distinct : (locks.writers.map Writer.number).Nodup) :
    locks.phase? number = some phase ↔
      ∃ writer ∈ locks.writers, writer.number = number ∧ writer.phase = phase := by
  simp only [phase?, Option.map_eq_some_iff, writer?_eq_some_iff distinct, and_assoc]

/-- A waiting writer gets its lock unless somebody holds it. -/
theorem enter?_eq_some_iff :
    locks.enter? number = some after ↔
      ∃ writer, locks.writer? number = some writer ∧ writer.phase = .waiting ∧
        locks.isHeld writer.lock = false ∧ after = locks.move number .holding := by
  unfold enter?
  cases locks.writer? number with
  | none => simp
  | some writer =>
    simp only [Bool.not_eq_eq_eq_not, Bool.not_true, Option.ite_none_right_eq_some,
      Option.some.injEq, and_assoc, eq_comm (a := locks.move number .holding), exists_eq_left']

namespace IsSound

/-- Without writers the locks are sound. -/
theorem empty : IsSound empty where
  distinct := List.nodup_nil
  current := by simp [WriterLocks.empty]
  made _ _ found := by cases found
  separate _ _ _ found := by cases found
  exclusive := by simp [WriterLocks.empty]

/-- A new writer with a handle of the lock for its id joins the others. -/
theorem arrive (sound : locks.IsSound) (new : locks.phase? number = none) (id : String) :
    (locks.arrive number id).IsSound := by
  have unknown := phase?_eq_none_iff.1 new
  have numbers (lock : Nat) :
      ((locks.writers ++ [(⟨number, id, lock, .waiting⟩ : Writer)]).map Writer.number).Nodup := by
    rw [List.map_append, List.nodup_append]
    refine ⟨sound.distinct, List.nodup_singleton _, ?_⟩
    intro used member last single
    obtain ⟨writer, there, rfl⟩ := List.mem_map.1 member
    rw [List.map_singleton, List.mem_singleton] at single
    rw [single]
    exact unknown writer there
  -- a writer that waits is not one of two holders
  have exclusive (lock : Nat) :
      ∀ left ∈ locks.writers ++ [⟨number, id, lock, .waiting⟩],
      ∀ right ∈ locks.writers ++ [⟨number, id, lock, .waiting⟩], left.phase = .holding →
        right.phase = .holding → left.lock = right.lock → left = right := by
    intro left leftMember right rightMember leftHolds rightHolds same
    rw [List.mem_append, List.mem_singleton] at leftMember rightMember
    rcases leftMember with leftMember | rfl
    · rcases rightMember with rightMember | rfl
      · exact sound.exclusive left leftMember right rightMember leftHolds rightHolds same
      · cases rightHolds
    · cases leftHolds
  unfold WriterLocks.arrive
  cases found : locks.table.get? id with
  | some lock =>
    refine ⟨numbers lock, ?_, sound.made, sound.separate, exclusive lock⟩
    intro writer member handle
    rcases List.mem_append.1 member with old | last
    · exact sound.current writer old handle
    · rw [List.mem_singleton.1 last]
      exact found
  | none =>
    refine ⟨numbers locks.fresh, ?_, ?_, ?_, exclusive locks.fresh⟩
    · intro writer member handle
      rw [Keyed.get?_insert]
      rcases List.mem_append.1 member with old | last
      · have own := sound.current writer old handle
        rw [if_neg, own]
        rintro rfl
        rw [own] at found
        cases found
      · rw [List.mem_singleton.1 last, if_pos rfl]
    · intro other lock held
      rw [Keyed.get?_insert] at held
      split at held
      · cases held
        exact Nat.lt_succ_self _
      · exact Nat.lt_succ_of_lt (sound.made other lock held)
    · intro left right lock leftHeld rightHeld
      rw [Keyed.get?_insert] at leftHeld rightHeld
      split at leftHeld <;> split at rightHeld
      · next leftId rightId => rw [leftId, rightId]
      · cases leftHeld
        exact absurd (sound.made right _ rightHeld) (Nat.lt_irrefl _)
      · cases rightHeld
        exact absurd (sound.made left _ leftHeld) (Nat.lt_irrefl _)
      · exact sound.separate left right lock leftHeld rightHeld

/-- A writer with a handle may go into another phase, and hold its lock if nobody else does. -/
theorem move (sound : locks.IsSound)
    (keeps : ∀ writer ∈ locks.writers, writer.number = number → writer.hasHandle = true)
    (free : phase = .holding →
      ∀ writer ∈ locks.writers, writer.number = number → locks.isHeld writer.lock = false) :
    (locks.move number phase).IsSound := by
  have moved {writer : Writer} (member : writer ∈ (locks.move number phase).writers) :
      ∃ old ∈ locks.writers, writer.id = old.id ∧ writer.lock = old.lock ∧
        (old.number = number ∧ writer = { old with phase } ∨
          old.number ≠ number ∧ writer = old) := by
    obtain ⟨old, there, rfl⟩ := List.mem_map.1 member
    refine ⟨old, there, ?_⟩
    split
    · next same => exact ⟨rfl, rfl, .inl ⟨same, rfl⟩⟩
    · next other => exact ⟨rfl, rfl, .inr ⟨other, rfl⟩⟩
  -- nobody else holds the lock of the writer that is to hold it
  have alone {left right : Writer} (leftMember : left ∈ locks.writers)
      (rightMember : right ∈ locks.writers) (isLeft : left.number = number)
      (holds : phase = .holding) (rightHolds : right.phase = .holding) :
      left.lock ≠ right.lock := by
    intro same
    have held := isHeld_iff.2 ⟨right, rightMember, same.symm, rightHolds⟩
    rw [free holds left leftMember isLeft] at held
    cases held
  refine ⟨?_, ?_, sound.made, sound.separate, ?_⟩
  · have numbers : (locks.move number phase).writers.map Writer.number =
        locks.writers.map Writer.number := by
      simp only [WriterLocks.move, List.map_map]
      refine List.map_congr_left fun writer _ => ?_
      simp only [Function.comp_apply]
      split <;> rfl
    rw [numbers]
    exact sound.distinct
  · intro writer member handle
    obtain ⟨old, there, sameId, sameLock, ⟨isIt, -⟩ | ⟨-, rfl⟩⟩ := moved member
    · rw [sameId, sameLock]
      exact sound.current old there (keeps old there isIt)
    · exact sound.current writer there handle
  · intro left leftMember right rightMember leftHolds rightHolds same
    obtain ⟨oldLeft, leftThere, -, leftLock, leftCase⟩ := moved leftMember
    obtain ⟨oldRight, rightThere, -, rightLock, rightCase⟩ := moved rightMember
    rw [leftLock, rightLock] at same
    rcases leftCase with ⟨isLeft, rfl⟩ | ⟨-, rfl⟩ <;> rcases rightCase with ⟨isRight, rfl⟩ | ⟨-, rfl⟩
    · rw [List.inj_on_of_nodup_map sound.distinct leftThere rightThere (isLeft.trans isRight.symm)]
    · exact absurd same (alone leftThere rightThere isLeft leftHolds rightHolds)
    · exact absurd same.symm (alone rightThere leftThere isRight rightHolds leftHolds)
    · exact sound.exclusive left leftThere right rightThere leftHolds rightHolds same

/-- A writer may go. -/
theorem drop (sound : locks.IsSound) (number : Nat) : (locks.drop number).IsSound := by
  have there {writer : Writer} (member : writer ∈ (locks.drop number).writers) :
      writer ∈ locks.writers := List.mem_of_mem_filter member
  exact ⟨sound.distinct.sublist (List.filter_sublist.map _),
    fun writer member => sound.current writer (there member), sound.made, sound.separate,
    fun left leftMember right rightMember =>
      sound.exclusive left (there leftMember) right (there rightMember)⟩

/-- A writer may clear the table when it goes: an entry goes only if nobody has a handle of its
lock. -/
theorem clear (sound : locks.IsSound) (number : Nat) : (locks.clear number).IsSound := by
  have others := sound.drop number
  unfold WriterLocks.clear
  cases locks.writer? number with
  | none => exact sound
  | some writer =>
    dsimp only
    cases found : locks.table.get? writer.id with
    | none => exact others
    | some lock =>
      have entry {id : String} {kept : Nat}
          (held : (locks.table.erase writer.id).get? id = some kept) :
          locks.table.get? id = some kept := by
        rw [Keyed.get?_erase] at held
        split at held
        · cases held
        · exact held
      dsimp only
      split
      · exact others
      · next unused =>
        refine ⟨others.distinct, ?_, fun id kept held => sound.made id kept (entry held),
          fun id other kept held otherHeld =>
            sound.separate id other kept (entry held) (entry otherHeld), others.exclusive⟩
        intro left member handle
        have there : left ∈ locks.writers := List.mem_of_mem_filter member
        have own := sound.current left there handle
        rw [Keyed.get?_erase, if_neg, own]
        intro same
        rw [same, found] at own
        exact unused (isUsed_iff.2 ⟨left, there, (Option.some.inj own).symm, handle⟩)

/-- Every step of a writer leaves sound locks. -/
theorem step {step : WriterStep} (sound : locks.IsSound) (made : locks.step? step = some after) :
    after.IsSound := by
  have isWriter {number : Nat} {phase : WriterPhase} (doing : locks.phase? number = some phase)
      {writer : Writer} (member : writer ∈ locks.writers) (same : writer.number = number) :
      writer.phase = phase := by
    have found := (writer?_eq_some_iff sound.distinct).2 ⟨member, same⟩
    rw [phase?, found] at doing
    exact Option.some.inj doing
  cases step with
  | arrive number id =>
    obtain ⟨new, made⟩ := Option.ite_none_right_eq_some.1 made
    cases made
    exact sound.arrive new id
  | enter number =>
    obtain ⟨writer, found, waits, free, rfl⟩ := enter?_eq_some_iff.1 made
    have onlyOne : ∀ other ∈ locks.writers, other.number = number → other = writer := by
      intro other member same
      have again := (writer?_eq_some_iff sound.distinct).2 ⟨member, same⟩
      rw [found] at again
      exact (Option.some.inj again).symm
    refine sound.move (fun other member same => ?_) fun _ other member same => ?_
    · rw [onlyOne other member same]
      exact hasHandle_iff.2 (.inl waits)
    · rw [onlyOne other member same]
      exact free
  | giveUp number =>
    obtain ⟨-, made⟩ := Option.ite_none_right_eq_some.1 made
    cases made
    exact sound.drop number
  | release number =>
    obtain ⟨holds, made⟩ := Option.ite_none_right_eq_some.1 made
    cases made
    exact sound.move (fun writer member same =>
      hasHandle_iff.2 (.inr (isWriter holds member same))) (fun holding => by cases holding)
  | clear number =>
    obtain ⟨-, made⟩ := Option.ite_none_right_eq_some.1 made
    cases made
    exact sound.clear number

/-- Any steps of any writers leave sound locks. -/
theorem run {steps : List WriterStep} (sound : locks.IsSound)
    (made : locks.run? steps = some after) : after.IsSound := by
  induction steps generalizing locks with
  | nil =>
    cases made
    exact sound
  | cons first rest ih =>
    obtain ⟨middle, stepped, made⟩ := Option.bind_eq_some_iff.1 made
    exact ih (sound.step stepped) made

end IsSound

/-- Whatever steps any number of writers have made: one writer at most holds an id; everybody who
holds or waits for an id has a handle of the lock that the table has for this id and for no other;
and a waiting writer is kept waiting exactly as long as somebody holds its own id. -/
theorem turns_of_run (steps : List WriterStep) (locks : WriterLocks)
    (made : empty.run? steps = some locks) :
    (∀ left ∈ locks.writers, ∀ right ∈ locks.writers, left.phase = .holding →
      right.phase = .holding → left.id = right.id → left = right) ∧
    (∀ writer ∈ locks.writers, writer.phase = .waiting ∨ writer.phase = .holding →
      locks.table.get? writer.id = some writer.lock ∧
        ∀ other, locks.table.get? other = some writer.lock → other = writer.id) ∧
    ∀ writer ∈ locks.writers, writer.phase = .waiting →
      (locks.enter? writer.number = none ↔
        ∃ holder ∈ locks.writers, holder.id = writer.id ∧ holder.phase = .holding) := by
  have sound : locks.IsSound := IsSound.empty.run made
  have current {writer : Writer} (member : writer ∈ locks.writers)
      (phase : writer.phase = .waiting ∨ writer.phase = .holding) :
      locks.table.get? writer.id = some writer.lock :=
    sound.current writer member (hasHandle_iff.2 phase)
  have sameLock_iff {left right : Writer} (leftMember : left ∈ locks.writers)
      (leftPhase : left.phase = .waiting ∨ left.phase = .holding)
      (rightMember : right ∈ locks.writers) (rightHolds : right.phase = .holding) :
      right.lock = left.lock ↔ right.id = left.id := by
    have leftOwn := current leftMember leftPhase
    have rightOwn := current rightMember (.inr rightHolds)
    constructor
    · intro same
      rw [same] at rightOwn
      exact sound.separate _ _ _ rightOwn leftOwn
    · intro same
      rw [same, leftOwn] at rightOwn
      exact (Option.some.inj rightOwn).symm
  refine ⟨?_, fun writer member phase => ?_, fun writer member waits => ?_⟩
  · intro left leftMember right rightMember leftHolds rightHolds same
    have locked := (sameLock_iff rightMember (.inr rightHolds) leftMember leftHolds).2 same
    exact sound.exclusive left leftMember right rightMember leftHolds rightHolds locked
  · have own := current member phase
    exact ⟨own, fun other held => sound.separate other writer.id writer.lock held own⟩
  · have found := (writer?_eq_some_iff sound.distinct).2 ⟨member, rfl⟩
    have held : locks.enter? writer.number = none ↔ locks.isHeld writer.lock = true := by
      simp [enter?, found, waits]
    rw [held, isHeld_iff]
    constructor
    · rintro ⟨holder, there, same, holds⟩
      exact ⟨holder, there, (sameLock_iff member (.inl waits) there holds).1 same, holds⟩
    · rintro ⟨holder, there, same, holds⟩
      exact ⟨holder, there, (sameLock_iff member (.inl waits) there holds).2 same, holds⟩

/-- Steps in which a writer gets its lock after another has released it and before that one clears
the table, while a third gives up, a fourth writes another id and a last one comes to wait. -/
def handover : List WriterStep :=
  [.arrive 0 "rooms", .arrive 1 "rooms", .enter 0, .arrive 2 "rooms", .arrive 3 "courses",
    .enter 3, .release 0, .enter 1, .giveUp 2, .clear 0, .arrive 4 "rooms"]

/-- The locks after these steps. -/
def afterHandover : WriterLocks where
  table := .ofList [("courses", 1), ("rooms", 0)]
  fresh := 2
  writers := [⟨1, "rooms", 0, .holding⟩, ⟨3, "courses", 1, .holding⟩, ⟨4, "rooms", 0, .waiting⟩]

/-- The last writer waits for the one to which the lock was handed over. -/
theorem turns_handover :
    empty.run? handover = some afterHandover ∧ afterHandover.enter? 4 = none :=
  ⟨rfl, ((turns_of_run handover afterHandover rfl).2.2 ⟨4, "rooms", 0, .waiting⟩
    (by decide) rfl).2 ⟨⟨1, "rooms", 0, .holding⟩, by decide, rfl, rfl⟩⟩

end WriterLocks
end Campus
