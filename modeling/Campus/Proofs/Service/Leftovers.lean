import Campus.Proofs.Service.Turns
import Mathlib.Data.List.Induction
/-!
# Locks that are left over

Only a writer that has held its lock clears the table. A waiting writer that gives up takes its
handle away and leaves the entry to others. If there are none the entry stays, until some later
writer of the id clears it. So an id that nobody writes has an entry exactly if the last of its
writers gave up waiting.
-/

namespace Campus.WriterLocks

variable {locks after : WriterLocks} {id : String} {last : WriterStep} {steps : List WriterStep}

/-- Nobody writes an id: nobody holds its lock or waits for it, and nobody who has released it has
still to clear the table. -/
def IsIdle (locks : WriterLocks) (id : String) : Prop := ∀ writer ∈ locks.writers, writer.id ≠ id

/-- A writer is the only one of its id. -/
def IsAlone (locks : WriterLocks) (writer : Writer) : Prop :=
  writer ∈ locks.writers ∧ ∀ other ∈ locks.writers, other.id = writer.id → other = writer

/-- The last of an id's writers gave up waiting: it was the only one then, and none has come
since. -/
def GaveUpLast (steps : List WriterStep) (id : String) : Prop :=
  ∃ before writer since locks, steps = before ++ .giveUp writer.number :: since ∧
    empty.run? before = some locks ∧ locks.IsAlone writer ∧ writer.id = id ∧
    ∀ number, .arrive number id ∉ since

/-- Steps may be made in two parts. -/
theorem run?_append (front back : List WriterStep) :
    locks.run? (front ++ back) = (locks.run? front).bind (·.run? back) :=
  List.foldlM_append

/-- The writers after a writer has come. -/
theorem writers_arrive (locks : WriterLocks) (number : Nat) (id : String) :
    ∃ lock, (locks.arrive number id).writers = locks.writers ++ [⟨number, id, lock, .waiting⟩] := by
  unfold arrive
  split <;> exact ⟨_, rfl⟩

/-- The writers after one has cleared the table. -/
theorem writers_clear (number : Nat) :
    (locks.clear number).writers = (locks.drop number).writers := by
  unfold clear
  cases found : locks.writer? number with
  | none =>
    have absent := List.find?_eq_none.1 found
    refine (List.filter_eq_self.2 fun writer member => ?_).symm
    simpa using absent writer member
  | some writer =>
    dsimp only
    split
    · split <;> rfl
    · rfl

/-- A writer that another one's step leaves there has its id before and after it. -/
theorem exists_writer_of_step {writer : Writer} (made : locks.step? last = some after)
    (member : writer ∈ locks.writers) (gives : last ≠ .giveUp writer.number)
    (clears : last ≠ .clear writer.number) : ∃ other ∈ after.writers, other.id = writer.id := by
  have moved (number : Nat) (phase : WriterPhase) :
      ∃ other ∈ (locks.move number phase).writers, other.id = writer.id := by
    refine ⟨_, List.mem_map_of_mem member, ?_⟩
    split <;> rfl
  have kept {number : Nat} (other : writer.number ≠ number) :
      writer ∈ (locks.drop number).writers :=
    List.mem_filter.2 ⟨member, by simpa using other⟩
  cases last with
  | arrive number id =>
    obtain ⟨-, made⟩ := Option.ite_none_right_eq_some.1 made
    cases made
    obtain ⟨lock, writers⟩ := writers_arrive locks number id
    exact ⟨writer, writers ▸ List.mem_append_left _ member, rfl⟩
  | enter number =>
    obtain ⟨-, -, -, -, rfl⟩ := enter?_eq_some_iff.1 made
    exact moved number .holding
  | giveUp number =>
    obtain ⟨-, made⟩ := Option.ite_none_right_eq_some.1 made
    cases made
    exact ⟨writer, kept fun same => gives (by rw [same]), rfl⟩
  | release number =>
    obtain ⟨-, made⟩ := Option.ite_none_right_eq_some.1 made
    cases made
    exact moved number .released
  | clear number =>
    obtain ⟨-, made⟩ := Option.ite_none_right_eq_some.1 made
    cases made
    rw [writers_clear]
    exact ⟨writer, kept fun same => clears (by rw [same]), rfl⟩

/-- Steps of others neither bring writers to an id that nobody writes nor change its entry. -/
theorem IsIdle.step (idle : locks.IsIdle id) (made : locks.step? last = some after)
    (others : ∀ number, last ≠ .arrive number id) :
    after.IsIdle id ∧ after.table.get? id = locks.table.get? id := by
  have moved (number : Nat) (phase : WriterPhase) : (locks.move number phase).IsIdle id := by
    intro writer member
    obtain ⟨old, there, rfl⟩ := List.mem_map.1 member
    split <;> exact idle old there
  have dropped (number : Nat) : (locks.drop number).IsIdle id :=
    fun writer member => idle writer (List.mem_of_mem_filter member)
  cases last with
  | arrive number other =>
    obtain ⟨-, made⟩ := Option.ite_none_right_eq_some.1 made
    cases made
    have different : id ≠ other := fun same => others number (by rw [same])
    refine ⟨fun writer member => ?_, ?_⟩
    · obtain ⟨lock, writers⟩ := writers_arrive locks number other
      rw [writers, List.mem_append, List.mem_singleton] at member
      rcases member with old | rfl
      · exact idle writer old
      · exact different.symm
    · unfold arrive
      split
      · rfl
      · rw [Keyed.get?_insert, if_neg different]
  | enter number =>
    obtain ⟨-, -, -, -, rfl⟩ := enter?_eq_some_iff.1 made
    exact ⟨moved number .holding, rfl⟩
  | giveUp number =>
    obtain ⟨-, made⟩ := Option.ite_none_right_eq_some.1 made
    cases made
    exact ⟨dropped number, rfl⟩
  | release number =>
    obtain ⟨-, made⟩ := Option.ite_none_right_eq_some.1 made
    cases made
    exact ⟨moved number .released, rfl⟩
  | clear number =>
    obtain ⟨-, made⟩ := Option.ite_none_right_eq_some.1 made
    cases made
    refine ⟨fun writer member => dropped number writer (writers_clear number ▸ member), ?_⟩
    unfold clear
    cases found : locks.writer? number with
    | none => rfl
    | some writer =>
      have different : id ≠ writer.id := (idle writer (List.mem_of_find?_eq_some found)).symm
      dsimp only
      split
      · split
        · rfl
        · rw [Keyed.get?_erase, if_neg different]
      · rfl

/-- Nobody comes to an id that nobody writes but by arriving. -/
theorem IsIdle.run (idle : locks.IsIdle id) (made : locks.run? steps = some after)
    (others : ∀ number, .arrive number id ∉ steps) : after.IsIdle id := by
  induction steps generalizing locks with
  | nil =>
    cases made
    exact idle
  | cons first rest ih =>
    obtain ⟨middle, stepped, made⟩ := Option.bind_eq_some_iff.1 made
    have next := (idle.step stepped fun number same =>
      others number (same ▸ List.mem_cons_self)).1
    exact ih next made fun number member => others number (List.mem_cons_of_mem _ member)

namespace IsSound

/-- A step after which nobody writes an id, while somebody did before, is the one with which the
only writer of the id goes: it gives up, or it clears the table. -/
theorem last_of_step {writer : Writer} (sound : locks.IsSound) (member : writer ∈ locks.writers)
    (made : locks.step? last = some after) (idle : after.IsIdle writer.id) :
    locks.IsAlone writer ∧
      (last = .giveUp writer.number ∧ writer.phase = .waiting ∨
        last = .clear writer.number ∧ writer.phase = .released) := by
  have goes {other : Writer} (there : other ∈ locks.writers) (same : other.id = writer.id) :
      last = .giveUp other.number ∨ last = .clear other.number := by
    by_contra stays
    rw [not_or] at stays
    obtain ⟨left, leftMember, sameId⟩ := exists_writer_of_step made there stays.1 stays.2
    exact idle left leftMember (sameId.trans same)
  have found := (writer?_eq_some_iff sound.distinct).2 ⟨member, rfl⟩
  have alone : locks.IsAlone writer := by
    refine ⟨member, fun other there same => ?_⟩
    have numbers : other.number = writer.number := by
      rcases goes member rfl with isGiveUp | isClear <;> rcases goes there same with other' | other'
      · exact (WriterStep.giveUp.inj (isGiveUp.symm.trans other')).symm
      · cases isGiveUp.symm.trans other'
      · cases isClear.symm.trans other'
      · exact (WriterStep.clear.inj (isClear.symm.trans other')).symm
    exact List.inj_on_of_nodup_map sound.distinct there member numbers
  refine ⟨alone, ?_⟩
  rcases goes member rfl with rfl | rfl
  · obtain ⟨phase, -⟩ := Option.ite_none_right_eq_some.1 made
    rw [phase?, found] at phase
    exact .inl ⟨rfl, Option.some.inj phase⟩
  · obtain ⟨phase, -⟩ := Option.ite_none_right_eq_some.1 made
    rw [phase?, found] at phase
    exact .inr ⟨rfl, Option.some.inj phase⟩

/-- The only writer of an id clears its entry. -/
theorem get?_clear_of_isAlone {writer : Writer} (sound : locks.IsSound)
    (alone : locks.IsAlone writer) (released : writer.phase = .released) :
    (locks.clear writer.number).table.get? writer.id = none := by
  have found := (writer?_eq_some_iff sound.distinct).2 ⟨alone.1, rfl⟩
  unfold WriterLocks.clear
  rw [found]
  dsimp only
  cases entry : locks.table.get? writer.id with
  | none => exact entry
  | some lock =>
    -- a handle of this lock would be one of a writer of this id, and this one has none
    have unused : ¬locks.isUsed lock = true := by
      rw [isUsed_iff]
      rintro ⟨other, there, rfl, handle⟩
      have own := sound.current other there handle
      have same := alone.2 other there (sound.separate _ _ _ own entry)
      rw [same, Writer.hasHandle, released] at handle
      cases handle
    dsimp only
    rw [if_neg unused, Keyed.get?_erase, if_pos rfl]

end IsSound

/-- Nobody writes an id after the last of its writers gave up. -/
theorem GaveUpLast.isIdle (gaveUp : GaveUpLast steps id) (made : empty.run? steps = some locks) :
    locks.IsIdle id := by
  obtain ⟨before, writer, since, earlier, rfl, run, alone, rfl, none⟩ := gaveUp
  rw [run?_append, run, Option.bind_some] at made
  obtain ⟨middle, stepped, made⟩ := Option.bind_eq_some_iff.1 made
  have sound : earlier.IsSound := IsSound.empty.run run
  obtain ⟨-, stepped⟩ := Option.ite_none_right_eq_some.1 stepped
  cases stepped
  have gone : (earlier.giveUp writer.number).IsIdle writer.id := by
    intro other member same
    obtain ⟨there, number⟩ := List.mem_filter.1 member
    rw [alone.2 other there same] at number
    simp at number
  exact gone.run made none

/-- Who gave up last, one step later. -/
theorem gaveUpLast_concat :
    GaveUpLast (steps ++ [last]) id ↔
      (GaveUpLast steps id ∧ ∀ number, last ≠ .arrive number id) ∨
        ∃ writer locks, last = .giveUp writer.number ∧ empty.run? steps = some locks ∧
          locks.IsAlone writer ∧ writer.id = id := by
  constructor
  · rintro ⟨before, writer, since, locks, split, run, alone, sameId, none⟩
    cases since using List.reverseRecOn with
    | nil =>
      obtain ⟨rfl, same⟩ := List.append_inj' split rfl
      exact .inr ⟨writer, locks, List.head_eq_of_cons_eq same, run, alone, sameId⟩
    | append_singleton since final =>
      rw [← List.cons_append, ← List.append_assoc] at split
      obtain ⟨rfl, same⟩ := List.append_inj' split rfl
      obtain rfl : last = final := List.head_eq_of_cons_eq same
      refine .inl ⟨⟨before, writer, since, locks, rfl, run, alone, sameId, fun number member =>
        none number (List.mem_append_left _ member)⟩, ?_⟩
      rintro number rfl
      exact none number (by simp)
  · rintro (⟨⟨before, writer, since, locks, rfl, run, alone, sameId, none⟩, others⟩ |
      ⟨writer, locks, rfl, run, alone, sameId⟩)
    · refine ⟨before, writer, since ++ [last], locks, by simp, run, alone, sameId, ?_⟩
      intro number member
      rcases List.mem_append.1 member with old | isLast
      · exact none number old
      · exact others number (List.mem_singleton.1 isLast).symm
    · exact ⟨steps, writer, [], locks, rfl, run, alone, sameId, fun _ => List.not_mem_nil⟩

/-- An id that nobody writes has an entry exactly if the last of its writers gave up. -/
theorem contains_iff_gaveUpLast (made : empty.run? steps = some locks) (idle : locks.IsIdle id) :
    locks.table.contains id = true ↔ GaveUpLast steps id := by
  induction steps using List.reverseRecOn generalizing locks with
  | nil =>
    cases made
    refine iff_of_false (fun held => by cases held) ?_
    rintro ⟨before, writer, since, -, split, -⟩
    simp at split
  | append_singleton steps step ih =>
    rw [run?_append] at made
    obtain ⟨middle, run, made⟩ := Option.bind_eq_some_iff.1 made
    replace made : middle.step? step = some locks := by simpa [run?] using made
    have sound : middle.IsSound := IsSound.empty.run run
    rw [gaveUpLast_concat]
    by_cases before : middle.IsIdle id
    · -- nobody wrote the id before the step either, so that the step is none of its writers'
      have others : ∀ number, step ≠ .arrive number id := by
        rintro number rfl
        obtain ⟨-, made⟩ := Option.ite_none_right_eq_some.1 made
        cases made
        obtain ⟨lock, writers⟩ := writers_arrive middle number id
        exact idle ⟨number, id, lock, .waiting⟩ (by simp [writers]) rfl
      rw [Keyed.contains, (before.step made others).2, ← Keyed.contains, ih run before]
      constructor
      · exact fun gaveUp => .inl ⟨gaveUp, others⟩
      · rintro (⟨gaveUp, -⟩ | ⟨writer, locks, -, again, alone, sameId⟩)
        · exact gaveUp
        · cases run.symm.trans again
          exact absurd sameId (before writer alone.1)
    · -- with the step the only writer of the id goes
      simp only [IsIdle, not_forall, not_not] at before
      obtain ⟨writer, member, rfl⟩ := before
      obtain ⟨alone, ⟨rfl, waits⟩ | ⟨rfl, released⟩⟩ := sound.last_of_step member made idle
      · obtain ⟨-, made⟩ := Option.ite_none_right_eq_some.1 made
        cases made
        have held := sound.current writer member (hasHandle_iff.2 (.inl waits))
        have kept : (middle.giveUp writer.number).table.contains writer.id = true := by
          rw [Keyed.contains, show (middle.giveUp writer.number).table = middle.table from rfl, held]
          rfl
        exact iff_of_true kept (.inr ⟨writer, middle, rfl, run, alone, rfl⟩)
      · obtain ⟨-, made⟩ := Option.ite_none_right_eq_some.1 made
        cases made
        refine iff_of_false ?_ ?_
        · rw [Keyed.contains, sound.get?_clear_of_isAlone alone released]
          exact Bool.false_ne_true
        · rintro (⟨gaveUp, -⟩ | ⟨other, -, isGiveUp, -⟩)
          · exact gaveUp.isIdle run writer member rfl
          · cases isGiveUp

/-- Whatever steps any number of writers have made: an id that nobody writes has an entry exactly if
the last of its writers gave up waiting. So once all writers are gone the table is empty unless this
happened to some id. -/
theorem leftover_iff_of_run (steps : List WriterStep) (locks : WriterLocks)
    (made : empty.run? steps = some locks) :
    (∀ id, (∀ writer ∈ locks.writers, writer.id ≠ id) →
      (locks.table.contains id = true ↔ GaveUpLast steps id)) ∧
    (locks.writers = [] → (locks.active = 0 ↔ ∀ id, ¬GaveUpLast steps id)) := by
  refine ⟨fun id idle => contains_iff_gaveUpLast made idle, fun gone => ?_⟩
  rw [active, Keyed.size_eq_zero_iff]
  refine forall_congr' fun id => ?_
  have idle : locks.IsIdle id := by simp [IsIdle, gone]
  rw [← contains_iff_gaveUpLast made idle, Bool.not_eq_true]

/-- Two writers of an id and one of another one, where the second of the two waits until the first
has cleared the table, and then gives up. -/
def forsaken : List WriterStep :=
  [.arrive 0 "rooms", .enter 0, .arrive 1 "courses", .enter 1, .arrive 2 "rooms", .release 0,
    .clear 0, .release 1, .giveUp 2, .clear 1]

/-- The lock of one id is left over, the other one's is not. -/
theorem leftover_forsaken :
    empty.run? forsaken = some ⟨.ofList [("rooms", 0)], 2, []⟩ ∧
      GaveUpLast forsaken "rooms" ∧ ¬GaveUpLast forsaken "courses" := by
  have entries := (leftover_iff_of_run forsaken ⟨.ofList [("rooms", 0)], 2, []⟩ rfl).1
  refine ⟨rfl, (entries "rooms" (by decide)).1 (by decide), ?_⟩
  rw [← entries "courses" (by decide)]
  decide

/-- All writers are gone, and an id still has a lock: the second writer waited until the first had
cleared the table. -/
theorem leftover_of_late_giveUp :
    ∃ locks, empty.run? [.arrive 0 "rooms", .enter 0, .arrive 1 "rooms", .release 0, .clear 0,
      .giveUp 1] = some locks ∧ locks.writers = [] ∧ locks.active = 1 :=
  ⟨⟨.ofList [("rooms", 0)], 1, []⟩, rfl, rfl, rfl⟩

end Campus.WriterLocks
