import Campus.Archive.Zip
import Campus.Data.Base64
import Campus.Ingest.Error
import Campus.Text.Blank
/-!
# Uploads

An upload is a zip file, as bytes or as base64 text with blanks around it.
-/

namespace Campus.Archive

/-- The failure of an unreadable zip file. -/
def faultError : Zip.Fault → IngestError
  | .layout => .invalidArchive
  | .content name => .unreadableFile name

/-- The archive that bytes hold. -/
def ofBytes (bytes : List UInt8) : Except IngestError Archive :=
  match Zip.read bytes with
  | .ok entries => .ok (ofEntries entries)
  | .error fault => .error (faultError fault)

/-- The archive that base64 text holds. -/
def ofBase64 (content : String) : Except IngestError Archive :=
  match Base64.standard.decode? (Text.trimChars content.toList) with
  | some bytes => ofBytes bytes
  | none => .error .invalidBase64

/-- Fail on the first required name that is absent. -/
def require (archive : Archive) (required : List String) : Except IngestError Unit :=
  match archive.missing? required with
  | some name => .error (.missingEntry name)
  | none => .ok ()

end Campus.Archive

namespace Campus

/-- An uploaded archive. -/
inductive Upload
  | bytes (content : List UInt8)
  | base64 (content : String)
deriving DecidableEq

/-- The archive of an upload. -/
def Upload.archive : Upload → Except IngestError Archive
  | bytes content => Archive.ofBytes content
  | base64 content => Archive.ofBase64 content

end Campus
