import Campus.Ingest.Rooms
/-!
# Lookups at the same time

The addresses of a survey are looked up at the same time. Every lookup asks once, waits, and ends
with a place or a failure; which of them goes on next is left open. All of them end with the places
once every one has ended in a place, and they may end with a failure as soon as one has failed,
whatever has become of the others.
-/

namespace Campus

/-- How far the lookup of an address has got. -/
inductive LookupStage
  /-- Nothing has been asked. -/
  | waiting
  /-- The address was asked for and there is no answer yet. -/
  | asked
  | ended (answer : Except IngestError Location)

/-- Lookups that are under way. -/
structure Lookups where
  /-- How far each has got, by address. -/
  stages : Keyed LookupStage
  /-- The addresses that were asked for, in the order in which they were. -/
  asked : List String

namespace Lookups

/-- Lookups of addresses before anything is asked. -/
def start (addresses : List String) : Lookups :=
  ⟨Keyed.ofList (addresses.map fun address => (address, .waiting)), []⟩

/-- The lookup of an address goes on: it asks, or it ends with what it is answered. -/
def advance (gazetteer : Gazetteer) (lookups : Lookups) (address : String) : Lookups :=
  match lookups.stages.get? address with
  | some .waiting =>
    ⟨lookups.stages.insert address .asked, lookups.asked ++ [address]⟩
  | some .asked =>
    { lookups with stages := lookups.stages.insert address (.ended (gazetteer.locate address)) }
  | some (.ended _) | none => lookups

/-- The lookups go on one after another as listed. -/
def run (gazetteer : Gazetteer) (lookups : Lookups) (steps : List String) : Lookups :=
  steps.foldl (advance gazetteer) lookups

/-- What the lookups may end with as they stand. -/
inductive EndsWith (lookups : Lookups) : Except IngestError (Keyed Location) → Prop
  /-- Every lookup has ended in a place. -/
  | places {places : Keyed Location}
    (all : ∀ address, lookups.stages.get? address =
      (places.get? address).map fun place => .ended (.ok place)) : EndsWith lookups (.ok places)
  /-- Some lookup has failed. -/
  | failure {address : String} {error : IngestError}
    (failed : lookups.stages.get? address = some (.ended (.error error))) :
    EndsWith lookups (.error error)

end Lookups
end Campus
