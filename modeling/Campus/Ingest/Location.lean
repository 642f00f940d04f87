import Campus.Ingest.Error
import Campus.Json.Fields
import Campus.Url.Reader
/-!
# Locations of buildings

A lookup service gives the coordinates of an address. It is asked at its own address with the
building's address as one more path segment, and replies with coordinates or with an error, which
wins if both are there.
-/

namespace Campus

/-- Coordinates in degrees. -/
structure Location where
  lat : Binary64
  lon : Binary64
deriving DecidableEq

/-- What the lookup service gives for an address: coordinates, or the reason why there are none. -/
abbrev Gazetteer := String → Except String Location

/-- The reply to a lookup. -/
structure LookupReply where
  lat : Option Binary64
  lon : Option Binary64
  error : Option String

namespace LookupReply

/-- The parts of a reply in their order. -/
def declared : List String := ["lat", "lon", "error"]

/-- The reply of a written form. -/
def ofSource? (source : Json.Source) : Option LookupReply := do
  let fields ← source.fields? declared
  return {
    lat := ← fields.optional "lat" Json.Source.isNull Json.Source.number?
    lon := ← fields.optional "lon" Json.Source.isNull Json.Source.number?
    error := ← fields.optional "error" Json.Source.isNull Json.Source.text? }

/-- The reply that bytes spell. -/
def parse? (bytes : List UInt8) : Option LookupReply := (Json.Source.parse? bytes).bind ofSource?

/-- What a reply says: its error if it has one, else its coordinates if it has both. -/
def location (reply : LookupReply) : Except String Location :=
  match reply.error, reply.lat, reply.lon with
  | some reason, _, _ => .error reason
  | none, some lat, some lon => .ok ⟨lat, lon⟩
  | none, _, _ => .error "response has no coordinates"

end LookupReply

/-- Ask for an address. -/
def Gazetteer.locate (gazetteer : Gazetteer) (address : String) : Except IngestError Location :=
  (gazetteer address).mapError (.geocode address)

/-- A lookup service, by its own address. -/
structure LookupService where
  base : Url

namespace LookupService

/-- The service at an address, which has to be one that can be extended. -/
def ofText (address : String) : Except IngestError LookupService :=
  match Url.parse? address with
  | some base => if base.isRootless then .error .geocoderUrl else .ok ⟨base⟩
  | none => .error .geocoderUrl

/-- Where to ask for an address. -/
def lookupUrl (service : LookupService) (address : String) : Except IngestError Url :=
  match service.base.append address with
  | some url => .ok url
  | none => .error .geocoderUrl

end LookupService
end Campus
