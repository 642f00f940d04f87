import Campus.Files.Fault
/-!
# Store failures
-/

namespace Campus

/-- Why a store cannot do what it is asked for. -/
inductive StoreError
  /-- The store has been closed. -/
  | closed
  /-- A file cannot be read or changed. -/
  | io (fault : FileFault)
  /-- A stored file spells no dataset. -/
  | corrupt (file : String)
deriving DecidableEq

namespace StoreError

/-- The message of a failure. -/
def message : StoreError → String
  | closed => "Repository is closed"
  | io fault => "I/O error: " ++ fault.message
  | corrupt file => "Corrupt dataset blob " ++ file

end StoreError
end Campus
