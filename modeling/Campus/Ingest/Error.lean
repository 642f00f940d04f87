/-!
# Ingestion failures

Every failure ends the whole ingestion, and nothing is stored.
-/

namespace Campus

/-- Why an upload gives no dataset. -/
inductive IngestError
  /-- The content is not base64. -/
  | invalidBase64
  /-- The content is not a readable archive. -/
  | invalidArchive
  /-- A folder or file that the kind requires is absent. -/
  | missingEntry (name : String)
  /-- A file of the archive cannot be decoded. -/
  | unreadableFile (name : String)
  /-- An address lookup failed. -/
  | geocode (address reason : String)
  /-- The lookup service has no usable address. -/
  | geocoderUrl
  /-- No record came out. -/
  | noValidRecords
  /-- A task broke down. -/
  | brokenTask
deriving DecidableEq

namespace IngestError

/-- The message of a failure. -/
def message : IngestError → String
  | invalidBase64 => "Invalid base64 input"
  | invalidArchive => "Invalid zip archive"
  | missingEntry name => "Archive is missing the required entry: " ++ name
  | unreadableFile name => "Error processing file " ++ name
  | geocode address reason => "Geolocation failed for '" ++ address ++ "': " ++ reason
  | geocoderUrl => "Invalid geocoder URL"
  | noValidRecords => "Dataset contains no valid records"
  | brokenTask => "Ingestion task failed"

end IngestError
end Campus
