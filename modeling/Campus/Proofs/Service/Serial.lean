import Campus.Proofs.Service.Consistency
import Campus.Proofs.Service.Reopening
import Mathlib.Data.List.Chain
/-!
# Calls at the same time are like calls one after another

The calls that commit, in the order in which they do, would all succeed one after another without
any other call in between, and would leave the same shelf and the same JSON files. On one id they
add and remove in turns. An addition whose id has a dataset when it gets the lock is refused and has
done nothing.
-/

namespace Campus

namespace Change.Commits

variable {surroundings : Surroundings} {change : Change} {store : Store} {after : Shelf}
  {first : StoreWrite}

/-- An addition commits where there is no dataset, a removal where there is one. -/
theorem contains_before (commits : change.Commits surroundings store after first) :
    store.shelf.datasets.contains change.id = !change.isAddition := by
  have new := commits.new
  have finds := commits.finds
  cases commits.begins with
  | add ingested => exact new rfl
  | remove id => exact finds

/-- After an addition there is a dataset, after a removal there is none. -/
theorem contains_after (commits : change.Commits surroundings store after first) :
    after.datasets.contains change.id = change.isAddition := by
  have own := commits.begins.id
  rw [commits.target, ← own, Keyed.contains]
  cases commits.begins with
  | add ingested =>
    have held := Keyed.get?_insert store.shelf.datasets
    simp [StoreWrite.target, StoreWrite.id, Shelf.add, held, isAddition]
  | remove id =>
    have gone := Keyed.get?_erase store.shelf.datasets
    simp [StoreWrite.target, StoreWrite.id, gone, isAddition]

/-- The write of a change that commits next to others is done when no others are there, too: the
device lets it pass, and the shelf is the same. -/
theorem perform (commits : change.Commits surroundings store after first) {alone : Store}
    (sameShelf : alone.shelf = store.shelf) (isOpen : alone.shelf.isClosed = false)
    (backs : ∀ folder, alone.folder = some folder → folder.Backs alone.shelf.datasets.get?)
    (hasFolder : alone.folder.isSome = store.folder.isSome) :
    let performed := first.perform surroundings.device alone
    performed.2 = .ok true ∧ performed.1.shelf = after ∧
      performed.1.folder.isSome = store.folder.isSome ∧
      ∀ folder, performed.1.folder = some folder → folder.Backs after.datasets.get? := by
  intro performed
  have underWay := StoreWrite.isUnderWay_of_begins isOpen backs commits.begins.isFirst rfl
  obtain ⟨done, shelf⟩ : performed.2 = .ok true ∧ performed.1.shelf = after := by
    rcases underWay.perform surroundings.device with ⟨done, shelf, -⟩ | ⟨-, -, -, stuck⟩
    · rw [sameShelf, commits.finds] at done
      rw [sameShelf] at shelf
      exact ⟨done, shelf.trans commits.target.symm⟩
    · rw [StoreWrite.passes_congr hasFolder, commits.passes] at stuck
      cases stuck
  have stillThere := (underWay.leaves_perform surroundings.device).hasFolder
  refine ⟨done, shelf, stillThere.trans hasFolder, fun folder found => ?_⟩
  rw [← shelf]
  exact StoreWrite.backs_perform underWay surroundings.device folder found

end Change.Commits

namespace Service

/-- A run with one more call. -/
theorem run_concat (service : Service) (calls : List (Surroundings × ServiceCall))
    (last : Surroundings × ServiceCall) :
    service.run (calls ++ [last]) =
      let before := service.run calls
      let answered := before.1.answerCall last.1 last.2
      (answered.1, before.2 ++ [answered.2]) := by
  induction calls generalizing service with
  | nil => rfl
  | cons first rest ih =>
    simp only [List.cons_append, run, ih]

variable {surroundings : Surroundings} {change : Change} {store : Store} {after : Shelf}
  {first : StoreWrite} {service : Service}

/-- A change that commits next to others is answered when no others are there, too, and does the
same to the shelf. -/
theorem answerCall_of_commits
    (commits : change.Commits surroundings store after first)
    (sameShelf : service.store.shelf = store.shelf)
    (isOpen : service.store.shelf.isClosed = false)
    (backs : ∀ folder, service.store.folder = some folder →
      folder.Backs service.store.shelf.datasets.get?)
    (hasFolder : service.store.folder.isSome = store.folder.isSome) :
    let answered := service.answerCall surroundings change.call
    (∃ document, answered.2 = .ok document) ∧ answered.1.store.shelf = after ∧
      answered.1.store.folder.isSome = store.folder.isSome ∧
      ∀ folder, answered.1.store.folder = some folder → folder.Backs after.datasets.get? := by
  obtain ⟨done, shelf, stillThere, stillBacks⟩ := commits.perform sameShelf isOpen backs hasFolder
  cases performed : first.perform surroundings.device service.store with
  | mk written outcome =>
    rw [performed] at done shelf stillBacks stillThere
    obtain rfl : outcome = .ok true := done
    obtain rfl : written.shelf = after := shelf
    cases commits.begins with
    | @add id kind upload d ingested =>
      have valid : checkId id = .ok () := commits.valid
      have absent : service.store.shelf.datasets.contains id = false :=
        sameShelf ▸ commits.new rfl
      have new := (checkNew_eq_ok_iff isOpen).2 absent
      have given := ingested service
      have untouched := store_ingest surroundings service id kind upload
      have wrote : service.store.put surroundings.device d = (written, .ok true) := performed
      have stillOpen : written.shelf.isClosed = false := by
        rw [commits.frame.1, ← sameShelf]
        exact isOpen
      cases ingestion : service.ingest surroundings id kind upload with
      | mk ingesting outcome =>
        rw [ingestion] at given untouched
        obtain rfl : outcome = .ok d := given
        rw [← untouched] at wrote
        have listed : ids { ingesting with store := written } = .ok _ := ids_of_isOpen stillOpen
        simp only [Change.call, answerCall, add, valid, new, ingestion, commit, wrote, listed]
        exact ⟨⟨_, rfl⟩, trivial, stillThere, stillBacks⟩
    | remove id =>
      have valid : checkId id = .ok () := commits.valid
      have wrote : service.store.delete surroundings.device id = (written, .ok true) := performed
      simp only [Change.call, answerCall, remove, valid, wrote]
      exact ⟨⟨_, rfl⟩, trivial, stillThere, stillBacks⟩

end Service

namespace Traffic

/-- The calls that have committed, to be made one after another. -/
def requests (calls : Nat → Surroundings × Change) (traffic : Traffic) :
    List (Surroundings × ServiceCall) :=
  traffic.commits.map fun number => ((calls number).1, (calls number).2.call)

/-- What has been committed on an id, in this order: whether it was an addition. -/
def additions (calls : Nat → Surroundings × Change) (traffic : Traffic) (id : String) : List Bool :=
  (traffic.commits.filter fun number => (calls number).2.id = id).map fun number =>
    (calls number).2.isAddition

/-- The service that answers the committed calls one after another: it has the same shelf and has
answered every call. -/
structure Follows (calls : Nat → Surroundings × Change) (traffic : Traffic) (service : Service) :
    Prop where
  shelf : (service.run (traffic.requests calls)).1.store.shelf = traffic.store.shelf
  hasFolder : (service.run (traffic.requests calls)).1.store.folder.isSome =
    traffic.store.folder.isSome
  backs : ∀ folder, (service.run (traffic.requests calls)).1.store.folder = some folder →
    folder.Backs traffic.store.shelf.datasets.get?
  answered : ∀ answer ∈ (service.run (traffic.requests calls)).2, ∃ document, answer = .ok document

/-- On an id additions and removals take turns, and the last one tells whether there is a dataset;
at first it is as given. -/
structure Alternates (calls : Nat → Surroundings × Change) (traffic : Traffic) (id : String)
    (present : Bool) : Prop where
  turns : (present :: traffic.additions calls id).IsChain (· ≠ ·)
  last : (present :: traffic.additions calls id).getLast? =
    some (traffic.store.shelf.datasets.contains id)

variable {calls : Nat → Surroundings × Change} {traffic after : Traffic} {number : Nat}
  {view : String → Option Dataset} {service : Service} {id : String} {present : Bool}

/-- A stage of a call is followed by a further answer if the call commits. -/
theorem Follows.step (follows : traffic.Follows calls service)
    (isOpen : traffic.store.shelf.isClosed = false)
    (hasFolder : after.store.folder.isSome = traffic.store.folder.isSome)
    (advances : traffic.Advances calls number after) : after.Follows calls service := by
  rcases advances with ⟨same, shelf⟩ | ⟨-, last, first, commits⟩
  · have requests : after.requests calls = traffic.requests calls := by
      rw [Traffic.requests, same, Traffic.requests]
    refine ⟨?_, ?_, ?_, ?_⟩ <;> rw [requests]
    · exact follows.shelf.trans shelf.symm
    · exact follows.hasFolder.trans hasFolder.symm
    · rw [shelf]
      exact follows.backs
    · exact follows.answered
  · have requests : after.requests calls = traffic.requests calls ++
        [((calls number).1, (calls number).2.call)] := by
      rw [Traffic.requests, last, List.map_append, Traffic.requests]
      rfl
    obtain ⟨answered, shelf, stillThere, backs⟩ :=
      Service.answerCall_of_commits commits follows.shelf (by rw [follows.shelf]; exact isOpen)
        (by rw [follows.shelf]; exact follows.backs) follows.hasFolder
    refine ⟨?_, ?_, ?_, ?_⟩ <;> rw [requests, Service.run_concat]
    · exact shelf
    · exact stillThere.trans hasFolder.symm
    · exact backs
    · intro answer member
      rcases List.mem_append.1 member with earlier | isLast
      · exact follows.answered answer earlier
      · rw [List.mem_singleton.1 isLast]
        exact answered

/-- A stage of a call keeps additions and removals of an id taking turns. -/
theorem Alternates.step (alternates : traffic.Alternates calls id present)
    (advances : traffic.Advances calls number after) : after.Alternates calls id present := by
  rcases advances with ⟨same, shelf⟩ | ⟨-, last, first, commits⟩
  · have additions : after.additions calls id = traffic.additions calls id := by
      rw [Traffic.additions, same, Traffic.additions]
    refine ⟨?_, ?_⟩ <;> rw [additions]
    · exact alternates.turns
    · rw [shelf]
      exact alternates.last
  · by_cases own : (calls number).2.id = id
    · have additions : present :: after.additions calls id =
          (present :: traffic.additions calls id) ++ [(calls number).2.isAddition] := by
        rw [Traffic.additions, last, List.filter_append, List.map_append, Traffic.additions]
        simp [own]
      have before := own ▸ commits.contains_before
      refine ⟨?_, ?_⟩ <;> rw [additions]
      · refine List.isChain_append.2 ⟨alternates.turns, List.isChain_singleton _, ?_⟩
        intro earlier isEarlier later isLater
        rw [alternates.last, Option.mem_some_iff] at isEarlier
        rw [List.head?_cons, Option.mem_some_iff] at isLater
        rw [← isEarlier, ← isLater, before]
        exact Bool.not_ne_self _
      · rw [List.getLast?_append, List.getLast?_singleton, Option.some_or,
          ← commits.contains_after, own]
    · have additions : after.additions calls id = traffic.additions calls id := by
        rw [Traffic.additions, last, List.filter_append, Traffic.additions]
        simp [own]
      have contains : after.store.shelf.datasets.contains id =
          traffic.store.shelf.datasets.contains id :=
        congrArg Option.isSome (commits.frame.2 id (Ne.symm own))
      refine ⟨?_, ?_⟩ <;> rw [additions]
      · exact alternates.turns
      · rw [contains]
        exact alternates.last

/-- The stages of an addition whose id has a dataset, by how many follow. -/
def refusal (id : String) : Nat → Stage
  | 0 => .done (.error (.duplicateId id))
  | 1 => .clearing (.error (.duplicateId id))
  | 2 => .releasing (.error (.duplicateId id))
  | _ => .checking

/-- A call that is refused in so many stages. Until it has looked its id has a dataset. -/
structure Refuses (calls : Nat → Surroundings × Change) (traffic : Traffic) (number left : Nat) :
    Prop where
  bound : left ≤ 3
  stage : traffic.stages number = refusal (calls number).2.id left
  present : left = 3 → traffic.store.shelf.datasets.contains (calls number).2.id = true

namespace Refuses

variable {left : Nat}

/-- A call whose id has a dataset when it gets the lock to look is refused from then on. -/
theorem of_waiting (waits : traffic.stages number = .waiting)
    (checks : (traffic.step calls number).stages number = .checking)
    (present : traffic.store.shelf.datasets.contains (calls number).2.id = true) :
    (traffic.step calls number).shared.service = traffic.shared.service ∧
      (traffic.step calls number).Refuses calls number 3 := by
  have same : (traffic.step calls number).shared.service = traffic.shared.service := by
    simp only [Traffic.step, waits, Stage.next]
    split <;> rfl
  refine ⟨same, Nat.le_refl 3, checks, fun _ => ?_⟩
  rw [store, same]
  exact present

/-- The next stage of a refused call does nothing, and one stage fewer follows. -/
theorem next (refuses : traffic.Refuses calls number left)
    (isOpen : traffic.store.shelf.isClosed = false) :
    (traffic.step calls number).shared.service = traffic.shared.service ∧
      (traffic.step calls number).stages number = refusal (calls number).2.id (left - 1) := by
  have bound := refuses.bound
  have stage := refuses.stage
  simp only [step, Function.update_self, stage]
  obtain rfl | rfl | rfl | rfl : left = 0 ∨ left = 1 ∨ left = 2 ∨ left = 3 := by omega
  · exact ⟨rfl, rfl⟩
  · exact ⟨rfl, rfl⟩
  · exact ⟨rfl, rfl⟩
  · have refused : traffic.shared.service.checkNew (calls number).2.id =
        .error (.duplicateId (calls number).2.id) :=
      (Service.checkNew_of_isOpen isOpen _).trans (if_pos (refuses.present rfl))
    simp only [refusal, Stage.next, refused, and_self]

/-- A call that is refused stays so, whatever stages come next. -/
theorem step (refuses : traffic.Refuses calls number left)
    (consistent : traffic.IsConsistent calls view) (other : Nat) :
    (traffic.step calls other).Refuses calls number (if other = number then left - 1 else left) := by
  have bound := refuses.bound
  by_cases own : other = number
  · obtain rfl := own
    rw [if_pos rfl]
    exact ⟨by omega, (refuses.next consistent.isOpen).2, fun many => absurd many (by omega)⟩
  · rw [if_neg own]
    have stage := stages_step_of_ne calls traffic (Ne.symm own)
    refine ⟨bound, stage.trans refuses.stage, fun all => ?_⟩
    rcases (consistent.step other).2.2 with ⟨-, shelf⟩ | ⟨otherHolds, -, first, commits⟩
    · rw [shelf]
      exact refuses.present all
    · have holds : (traffic.stages number).phase? = some .holding := by
        rw [refuses.stage, all]
        rfl
      have differs : (calls number).2.id ≠ (calls other).2.id := fun same =>
        own (eq_of_holding consistent.turns otherHolds holds same.symm)
      rw [Keyed.contains, commits.frame.2 _ differs]
      exact refuses.present all

/-- A refused call gets its answer after its stages, whatever stages of others come between. -/
theorem run (refuses : traffic.Refuses calls number left)
    (consistent : traffic.IsConsistent calls view) (schedule : List Nat) :
    (traffic.run calls schedule).Refuses calls number (left - schedule.count number) := by
  induction schedule generalizing traffic view left with
  | nil => exact refuses
  | cons other rest ih =>
    obtain ⟨⟨following, after⟩, -⟩ := consistent.step other
    have counted : left - (other :: rest).count number =
        (if other = number then left - 1 else left) - rest.count number := by
      rw [List.count_cons]
      by_cases own : other = number
      · rw [if_pos own, if_pos (beq_iff_eq.2 own)]
        omega
      · rw [if_neg own, if_neg fun same => own (beq_iff_eq.1 same)]
        rfl
    rw [counted]
    exact ih (refuses.step consistent other) after

/-- A call that is refused has not committed. -/
theorem not_mem_commits (refuses : traffic.Refuses calls number left)
    (consistent : traffic.IsConsistent calls view) : number ∉ traffic.commits := by
  have bound := refuses.bound
  have stands := consistent.stands number
  rw [refuses.stage] at stands
  obtain rfl | rfl | rfl | rfl : left = 0 ∨ left = 1 ∨ left = 2 ∨ left = 3 := by omega
  · exact fun committed => by simpa using stands.1.1 committed
  · exact fun committed => by simpa using stands.1.1 committed
  · exact fun committed => by simpa using stands.1.1 committed
  · exact stands.1

end Refuses

/-- Calls under way next to each other, of which the committed ones might have been made one after
another. -/
structure IsSerial (calls : Nat → Surroundings × Change) (service : Service) (traffic : Traffic) :
    Prop where
  consistent : ∃ view, traffic.IsConsistent calls view
  follows : traffic.Follows calls service
  alternates : ∀ id, traffic.Alternates calls id (service.store.shelf.datasets.contains id)

namespace IsSerial

/-- Before the first call nothing is committed. -/
theorem start (isOpen : service.store.shelf.isClosed = false)
    (backs : ∀ folder, service.store.folder = some folder →
      folder.Backs service.store.shelf.datasets.get?)
    (calls : Nat → Surroundings × Change) : (start service).IsSerial calls service where
  consistent := ⟨_, isConsistent_start isOpen backs calls⟩
  follows := ⟨rfl, rfl, backs, fun _ member => absurd member List.not_mem_nil⟩
  alternates _ := ⟨List.isChain_singleton _, rfl⟩

/-- Any stages of any calls in any order. -/
theorem run (serial : traffic.IsSerial calls service) (schedule : List Nat) :
    (traffic.run calls schedule).IsSerial calls service := by
  induction schedule generalizing traffic with
  | nil => exact serial
  | cons number rest ih =>
    obtain ⟨view, consistent⟩ := serial.consistent
    obtain ⟨after, hasFolder, advances⟩ := consistent.step number
    exact ih ⟨after, serial.follows.step consistent.isOpen hasFolder advances,
      fun id => (serial.alternates id).step advances⟩

/-- While no call is under way, the JSON files are those that the committed calls leave when they are
made one after another. -/
theorem jsonFiles_eq (serial : traffic.IsSerial calls service)
    (idle : ∀ number, (traffic.stages number).phase? = none) :
    (service.run (traffic.requests calls)).1.store.folder.map Folder.jsonFiles =
      traffic.store.folder.map Folder.jsonFiles := by
  obtain ⟨view, consistent⟩ := serial.consistent
  have hasFolder := serial.follows.hasFolder
  cases found : traffic.store.folder with
  | none =>
    rw [found, Option.isSome_none, Option.isSome_eq_false_iff, Option.isNone_iff_eq_none]
      at hasFolder
    rw [hasFolder]
  | some folder =>
    rw [found, Option.isSome_some, Option.isSome_iff_exists] at hasFolder
    obtain ⟨serialFolder, serialFound⟩ := hasFolder
    have backs := consistent.backs_of_idle idle folder found
    have serialBacks := serial.follows.backs serialFolder serialFound
    rw [serialFound, Option.map_some, Option.map_some, backs.jsonFiles_eq serialBacks]

end IsSerial

/-- However the stages of any number of additions and removals come one after another, on a service
that is open and has the blobs of its datasets in its folder, if it has one: no addition that writes
finds a dataset under its id; on one id those that commit add and remove in turns; an addition whose
id has a dataset when it gets the lock does nothing from then on, and three stages later it has been
refused; the calls that succeed are those that commit, and if they are made one after another in this
order, then each succeeds, and they leave the same shelf and, once no call is under way, the same
JSON files; and an addition that succeeds lists its own id. -/
theorem serial_of_run (service : Service) (isOpen : service.store.shelf.isClosed = false)
    (backs : ∀ folder, service.store.folder = some folder →
      folder.Backs service.store.shelf.datasets.get?)
    (calls : Nat → Surroundings × Change) (schedule : List Nat) :
    let traffic := (start service).run calls schedule
    let serial := service.run (traffic.requests calls)
    (∀ number write, traffic.stages number = .writing write →
      (calls number).2.isAddition = true →
        traffic.store.shelf.datasets.contains (calls number).2.id = false) ∧
    (∀ id, (service.store.shelf.datasets.contains id :: traffic.additions calls id).IsChain
      (· ≠ ·)) ∧
    (∀ (before : List Nat) (number : Nat) (rest : List Nat),
      let ready := (start service).run calls before
      let locked := ready.step calls number
      let later := locked.run calls rest
      ready.stages number = .waiting → locked.stages number = .checking →
        ready.store.shelf.datasets.contains (calls number).2.id = true →
          number ∉ later.commits ∧ locked.shared.service = ready.shared.service ∧
          (later.step calls number).shared.service = later.shared.service ∧
          let error := ServiceError.duplicateId (calls number).2.id
          error.code = .validation ∧
            (3 ≤ rest.count number → later.stages number = .done (.error error))) ∧
    (traffic.commits.Nodup ∧ ∀ number, (traffic.stages number).phase? = none →
      (number ∈ traffic.commits ↔ ∃ ids, traffic.stages number = .done (.ok ids))) ∧
    ((∀ answer ∈ serial.2, ∃ document, answer = .ok document) ∧
      serial.1.store.shelf = traffic.store.shelf ∧
      ((∀ number, (traffic.stages number).phase? = none) →
        serial.1.store.folder.map Folder.jsonFiles = traffic.store.folder.map Folder.jsonFiles)) ∧
    ∀ number ids, traffic.stages number = .done (.ok ids) → (calls number).2.id ∈ ids := by
  intro traffic serial
  have all (schedule : List Nat) : ((start service).run calls schedule).IsSerial calls service :=
    (IsSerial.start isOpen backs calls).run schedule
  have isSerial : traffic.IsSerial calls service := all schedule
  obtain ⟨view, consistent⟩ := isSerial.consistent
  refine ⟨fun number write writes isAddition => ?_, fun id => (isSerial.alternates id).turns, ?_,
    ⟨consistent.nodup, fun number idle => consistent.mem_commits_iff idle⟩,
    ⟨isSerial.follows.answered, isSerial.follows.shelf, isSerial.jsonFiles_eq⟩,
    fun number ids ended => ?_⟩
  · have stands := consistent.stands number
    rw [writes] at stands
    exact stands.2.2.1 isAddition
  · intro before number rest ready locked later waits checks present
    obtain ⟨view, readyConsistent⟩ := (all before).consistent
    obtain ⟨⟨view, lockedConsistent⟩, -⟩ := readyConsistent.step number
    obtain ⟨view, laterConsistent⟩ := lockedConsistent.run rest
    obtain ⟨same, refused⟩ := Refuses.of_waiting waits checks present
    have laterRefused : later.Refuses calls number (3 - rest.count number) :=
      refused.run lockedConsistent rest
    refine ⟨laterRefused.not_mem_commits laterConsistent, same,
      (laterRefused.next laterConsistent.isOpen).1, rfl, fun enough => ?_⟩
    have ended := laterRefused.stage
    rw [Nat.sub_eq_zero_of_le enough] at ended
    exact ended
  · have stands := consistent.stands number
    rw [ended] at stands
    exact stands.2 ids rfl

deriving instance DecidableEq for Stage

/-- Two additions and a removal of one id. -/
def threeCalls (number : Nat) : Surroundings × Change :=
  (⟨Device.sound, fun _ => .error ""⟩,
    if number = 1 then .remove "courses" else .add "courses" .sections Service.oneSection)

/-- The first addition goes through all stages while the removal and the second one wait. -/
def firstOfThree : List Nat := [0, 0, 1, 2] ++ List.replicate 9 0

/-- The second addition has got the lock, and the removal goes through all stages after it. -/
def lastOfThree : List Nat := [1, 2, 2, 2] ++ List.replicate 6 1

/-- The second addition is refused, and the others are like one after the other. -/
theorem serial_of_threeCalls :
    let service := Service.onStore ⟨.empty, some ∅⟩ 5000
    let traffic := (start service).run threeCalls (firstOfThree ++ 2 :: lastOfThree)
    traffic.commits = [0, 1] ∧ traffic.stages 2 = .done (.error (.duplicateId "courses")) ∧
      (service.run (traffic.requests threeCalls)).1.store.shelf = traffic.store.shelf := by
  intro service traffic
  have backs : ∀ folder, service.store.folder = some folder →
      folder.Backs service.store.shelf.datasets.get? := by
    rintro folder ⟨⟩
    exact .empty
  obtain ⟨-, -, refused, -, ⟨-, shelf, -⟩, -⟩ :=
    serial_of_run service rfl backs threeCalls (firstOfThree ++ 2 :: lastOfThree)
  obtain ⟨-, -, -, -, ended⟩ := refused firstOfThree 2 lastOfThree (by decide +kernel)
    (by decide +kernel) (by decide +kernel)
  have runs : traffic = (((start service).run threeCalls firstOfThree).step threeCalls 2).run
      threeCalls lastOfThree := by
    simp only [traffic, run, List.foldl_append, List.foldl_cons]
  refine ⟨by decide +kernel, ?_, ?_⟩
  · rw [runs]
    exact ended (by decide)
  · simp only [traffic]
    exact shelf

end Traffic
end Campus
