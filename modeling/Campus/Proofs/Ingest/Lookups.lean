import Campus.Ingest.Lookups
import Campus.Proofs.Ingest.Pages
/-!
# Which addresses are looked up

However the lookups of a survey go on, each address of a building with rooms is asked for at most
once and no other ever is. If all are answered the lookups can only end with all places, after each
address has been asked for; if one is not, they can only end with the failure of one that is not.
-/

namespace Campus

/-- The stage of a lookup after one more step, given the answer to it. -/
def LookupStage.next (answer : Except IngestError Location) : LookupStage → LookupStage
  | .waiting => .asked
  | .asked => .ended answer
  | .ended given => .ended given

namespace Gazetteer

variable {gazetteer : Gazetteer} {address : String}

/-- A place is found where the gazetteer has it. -/
theorem locate_eq_ok_iff {place : Location} :
    gazetteer.locate address = .ok place ↔ gazetteer address = .ok place := by
  rw [locate]
  cases gazetteer address <;> simp [Except.mapError]

/-- A lookup fails with the reason of the gazetteer, and names the address. -/
theorem locate_eq_error_iff {error : IngestError} :
    gazetteer.locate address = .error error ↔
      ∃ reason, gazetteer address = .error reason ∧ error = .geocode address reason := by
  rw [locate]
  cases gazetteer address <;> simp [Except.mapError, eq_comm]

end Gazetteer

namespace Lookups

variable {gazetteer : Gazetteer} {addresses : List String} {lookups : Lookups}

/-- Lookups of addresses as they can stand after some steps. -/
structure Follows (gazetteer : Gazetteer) (addresses : List String) (lookups : Lookups) : Prop where
  /-- There is a lookup for every address and no other. -/
  listed : ∀ address, (lookups.stages.get? address).isSome ↔ address ∈ addresses
  /-- What was asked for is what does not wait any more. -/
  told : ∀ address, address ∈ lookups.asked ↔
    ∃ stage, lookups.stages.get? address = some stage ∧ stage ≠ .waiting
  /-- Nothing was asked for twice. -/
  once : lookups.asked.Nodup
  /-- Answers are those of the gazetteer. -/
  answered : ∀ address answer, lookups.stages.get? address = some (.ended answer) →
    answer = gazetteer.locate address

/-- At the start every address waits. -/
theorem get?_start (addresses : List String) (address : String) :
    (start addresses).stages.get? address =
      if address ∈ addresses then some .waiting else none := by
  have isKey : ((start addresses).stages.get? address).isSome ↔ address ∈ addresses := by
    rw [← Keyed.mem_keys_iff, start, Keyed.mem_keys_ofList_iff, List.map_map]
    simp
  split
  · next listed =>
    obtain ⟨stage, found⟩ := Option.isSome_iff_exists.1 (isKey.2 listed)
    have stands := Entries.mem_of_get? ((Keyed.get?_ofList ..).symm.trans found)
    obtain ⟨_, -, same⟩ := List.mem_map.1 (List.mem_reverse.1 stands)
    rw [found, ← (Prod.mk.inj same).2]
  · next absent =>
    exact Option.not_isSome_iff_eq_none.1 fun found => absent (isKey.1 found)

/-- Nothing is asked before the first step. -/
theorem follows_start (gazetteer : Gazetteer) (addresses : List String) :
    Follows gazetteer addresses (start addresses) where
  listed address := by
    rw [get?_start]
    split <;> simp_all
  told address := by
    rw [get?_start]
    split <;> simp [start]
  once := List.nodup_nil
  answered address answer ended := by
    rw [get?_start] at ended
    split at ended <;> simp at ended

/-- A step of one lookup leaves the lookups as they can stand. -/
theorem Follows.advance (follows : Follows gazetteer addresses lookups) (address : String) :
    Follows gazetteer addresses (lookups.advance gazetteer address) := by
  -- Putting in a stage for an address that has one changes no other address.
  have listed (stage : LookupStage) (isThere : (lookups.stages.get? address).isSome = true)
      (other : String) :
      ((lookups.stages.insert address stage).get? other).isSome ↔ other ∈ addresses := by
    rw [Keyed.get?_insert, ← follows.listed]
    split
    · next same => exact iff_of_true rfl (same ▸ isThere)
    · rfl
  unfold Lookups.advance
  split
  · next waits =>
    have notAsked : address ∉ lookups.asked := fun asked => by
      obtain ⟨stage, found, left⟩ := (follows.told address).1 asked
      exact left (Option.some.inj (found.symm.trans waits))
    refine ⟨listed _ (by rw [waits]; rfl), fun other => ?_, ?_, fun other answer ended => ?_⟩
    · rw [List.mem_append, List.mem_singleton, follows.told, Keyed.get?_insert]
      by_cases same : other = address
      · simp [same]
      · simp [same]
    · simpa using follows.once.concat notAsked
    · rw [Keyed.get?_insert] at ended
      split at ended
      · cases ended
      · exact follows.answered other answer ended
  · next asked =>
    refine ⟨listed _ (by rw [asked]; rfl), fun other => ?_, follows.once,
      fun other answer ended => ?_⟩
    · rw [follows.told, Keyed.get?_insert]
      by_cases same : other = address
      · simp [same, asked]
      · simp [same]
    · rw [Keyed.get?_insert] at ended
      split at ended
      · next same =>
        cases ended
        rw [same]
      · exact follows.answered other answer ended
  · exact follows
  · exact follows

/-- After any steps the lookups stand as they can. -/
theorem Follows.run (follows : Follows gazetteer addresses lookups) (steps : List String) :
    Follows gazetteer addresses (lookups.run gazetteer steps) := by
  induction steps generalizing lookups with
  | nil => exact follows
  | cons address rest ih => exact ih (follows.advance address)

section ends

variable {places : Keyed Location} {error : IngestError}

/-- Lookups that end with places have asked for every address and been told its place. -/
theorem Follows.of_places (follows : Follows gazetteer addresses lookups)
    (ends : lookups.EndsWith (.ok places)) :
    (∀ address, address ∈ lookups.asked ↔ address ∈ addresses) ∧
      ∀ address ∈ addresses, ∃ place, gazetteer.locate address = .ok place ∧
        places.get? address = some place := by
  cases ends with
  | places all =>
    have found : ∀ address ∈ addresses, ∃ place, places.get? address = some place ∧
        lookups.stages.get? address = some (.ended (.ok place)) := by
      intro address listed
      have isThere := (follows.listed address).2 listed
      rw [all, Option.isSome_map] at isThere
      obtain ⟨place, isPlace⟩ := Option.isSome_iff_exists.1 isThere
      exact ⟨place, isPlace, by rw [all, isPlace, Option.map_some]⟩
    constructor
    · intro address
      rw [follows.told]
      constructor
      · rintro ⟨stage, isThere, -⟩
        exact (follows.listed address).1 (by rw [isThere]; rfl)
      · intro listed
        obtain ⟨place, -, ended⟩ := found address listed
        exact ⟨_, ended, nofun⟩
    · intro address listed
      obtain ⟨place, isPlace, ended⟩ := found address listed
      exact ⟨place, (follows.answered address _ ended).symm, isPlace⟩

/-- Lookups that end with a failure have asked for an address that has none. -/
theorem Follows.of_failure (follows : Follows gazetteer addresses lookups)
    (ends : lookups.EndsWith (.error error)) :
    ∃ address ∈ lookups.asked, gazetteer.locate address = .error error := by
  cases ends with
  | failure failed =>
    exact ⟨_, (follows.told _).2 ⟨_, failed, nofun⟩, (follows.answered _ _ failed).symm⟩

end ends

/-- Only addresses that are to be looked up are asked for. -/
theorem Follows.mem_addresses (follows : Follows gazetteer addresses lookups) {address : String}
    (asked : address ∈ lookups.asked) : address ∈ addresses := by
  obtain ⟨stage, isThere, -⟩ := (follows.told address).1 asked
  exact (follows.listed address).1 (by rw [isThere]; rfl)

/-- A lookup that goes on twice ends with its answer. -/
theorem iterate_next (answer : Except IngestError Location) {steps : Nat} (enough : 2 ≤ steps) :
    (LookupStage.next answer)^[steps] .waiting = .ended answer := by
  obtain ⟨more, rfl⟩ := Nat.exists_eq_add_of_le' enough
  rw [Function.iterate_add_apply]
  exact Function.iterate_fixed rfl more

/-- A step of one lookup is the next stage of that one and changes no other. -/
theorem get?_advance (gazetteer : Gazetteer) (lookups : Lookups) (address other : String) :
    (lookups.advance gazetteer address).stages.get? other =
      if other = address then
        (lookups.stages.get? address).map (.next (gazetteer.locate address))
      else lookups.stages.get? other := by
  unfold Lookups.advance
  split
  · next found => rw [Keyed.get?_insert, found]; rfl
  · next found => rw [Keyed.get?_insert, found]; rfl
  · next found =>
    split
    · next same => rw [same, found]; rfl
    · rfl
  · next absent =>
    split
    · next same => rw [same, absent]; rfl
    · rfl

/-- After some steps a lookup has gone on as often as it occurs among them. -/
theorem get?_run (gazetteer : Gazetteer) (lookups : Lookups) (steps : List String)
    (address : String) :
    (lookups.run gazetteer steps).stages.get? address =
      (lookups.stages.get? address).map
        (LookupStage.next (gazetteer.locate address))^[steps.count address] := by
  induction steps generalizing lookups with
  | nil => simp [run]
  | cons first rest ih =>
    rw [run, List.foldl_cons, ← run, ih, get?_advance, List.count_cons]
    by_cases same : address = first
    · subst same
      rw [if_pos rfl, if_pos (beq_self_eq_true _), Option.map_map, Function.iterate_succ]
    · rw [if_neg same, if_neg (by simpa using Ne.symm same), Nat.add_zero]

/-- Once every lookup has gone on twice, they may end with what looking the addresses up one after
another comes to. -/
theorem endsWith_locateAll (gazetteer : Gazetteer) {steps : List String}
    (enough : ∀ address ∈ addresses, 2 ≤ steps.count address) :
    ((start addresses).run gazetteer steps).EndsWith
      (RoomSurvey.locateAll gazetteer ∅ addresses).2 := by
  have stage : ∀ address, ((start addresses).run gazetteer steps).stages.get? address =
      if address ∈ addresses then some (.ended (gazetteer.locate address)) else none := by
    intro address
    rw [get?_run, get?_start]
    split
    · next listed => rw [Option.map_some, iterate_next _ (enough address listed)]
    · rfl
  rcases RoomSurvey.locateAll_cases gazetteer ∅ addresses with
    ⟨found, all, each, others⟩ | ⟨address, listed, error, failed, unlocated⟩
  · rw [all]
    refine .places fun address => ?_
    rw [stage]
    split
    · next listed =>
      obtain ⟨place, located, isPlace⟩ := each address listed
      rw [located, isPlace, Option.map_some]
    · next absent => rw [others address absent, Keyed.get?_empty, Option.map_none]
  · rw [failed]
    exact .failure (by rw [stage, if_pos listed, unlocated])

/-- Lookups that still wait may go on one after another until one fails. -/
theorem exists_run_of_waiting {places : Keyed Location} {rest : List String} (distinct : rest.Nodup)
    (waiting : ∀ address ∈ rest, lookups.stages.get? address = some .waiting)
    (others : ∀ address ∉ rest, lookups.stages.get? address =
      (places.get? address).map fun place => .ended (.ok place)) :
    ∃ steps, (lookups.run gazetteer steps).asked =
        lookups.asked ++ (RoomSurvey.locateAll gazetteer places rest).1 ∧
      (lookups.run gazetteer steps).EndsWith (RoomSurvey.locateAll gazetteer places rest).2 := by
  induction rest generalizing lookups places with
  | nil =>
    exact ⟨[], (List.append_nil _).symm, .places fun address => others address List.not_mem_nil⟩
  | cons first rest ih =>
    obtain ⟨isNew, distinct⟩ := List.nodup_cons.1 distinct
    have waits := waiting first List.mem_cons_self
    -- The first lookup asks and ends before any other goes on.
    obtain ⟨next, isNext⟩ : ∃ next, next = lookups.run gazetteer [first, first] := ⟨_, rfl⟩
    have asked : next.asked = lookups.asked ++ [first] := by
      simp [isNext, run, advance, waits, Keyed.get?_insert]
    have stages (address : String) : next.stages.get? address =
        if address = first then some (.ended (gazetteer.locate first))
        else lookups.stages.get? address := by
      rw [isNext, get?_run]
      split
      · next same => simp [same, waits, LookupStage.next]
      · next different => simp [Ne.symm different]
    cases located : gazetteer.locate first with
    | error error =>
      have failed : next.stages.get? first = some (.ended (.error error)) := by
        rw [stages, if_pos rfl, located]
      rw [RoomSurvey.locateAll, located]
      exact ⟨[first, first], isNext ▸ asked, isNext ▸ .failure failed⟩
    | ok place =>
      have waitingRest : ∀ address ∈ rest, next.stages.get? address = some .waiting := by
        intro address later
        rw [stages, if_neg (ne_of_mem_of_not_mem later isNew)]
        exact waiting address (List.mem_cons_of_mem _ later)
      have othersRest : ∀ address ∉ rest, next.stages.get? address =
          ((places.insert first place).get? address).map fun place => .ended (.ok place) := by
        intro address absent
        rw [stages, Keyed.get?_insert]
        split
        · rw [located, Option.map_some]
        · next different =>
          exact others address fun member => (List.mem_cons.1 member).elim different absent
      obtain ⟨steps, askedRest, ends⟩ := ih distinct waitingRest othersRest
      rw [asked, List.append_assoc] at askedRest
      rw [RoomSurvey.locateAll, located]
      exact ⟨first :: first :: steps, by simpa [isNext, run] using askedRest,
        by simpa [isNext, run] using ends⟩

/-- Looking addresses up one after another until one fails is a way in which lookups may go on. -/
theorem exists_run_locateAll (gazetteer : Gazetteer) (distinct : addresses.Nodup) :
    ∃ steps, ((start addresses).run gazetteer steps).asked =
        (RoomSurvey.locateAll gazetteer ∅ addresses).1 ∧
      ((start addresses).run gazetteer steps).EndsWith
        (RoomSurvey.locateAll gazetteer ∅ addresses).2 :=
  exists_run_of_waiting distinct (fun address listed => by rw [get?_start, if_pos listed])
    fun address absent => by rw [get?_start, if_neg absent, Keyed.get?_empty, Option.map_none]

end Lookups
end Campus
