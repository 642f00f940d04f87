/-!
# Origins

Pages of other sites may see responses if the service is set up for their origin or for all origins.
The list of origins cannot contain the star, which stands for all of them.
-/

namespace Campus

/-- Which pages may see responses. -/
inductive OriginPolicy
  | all
  | listed (origins : List String)
deriving DecidableEq

namespace OriginPolicy

/-- Whether a text can be sent as an origin: printable ASCII and tabs. -/
def isSendable (origin : String) : Bool :=
  origin.toList.all fun c => (0x20 ≤ c.toNat && c.toNat < 0x7F) || c == '\t'

/-- The policy for a list of origins: none means all, and those that cannot be sent are left out. A
list with a star has no policy. -/
def ofOrigins? (origins : List String) : Option OriginPolicy :=
  let sendable := origins.filter isSendable
  if origins.isEmpty then some all
  else if sendable.contains "*" then none
  else some (listed sendable)

/-- What a response says about the origin of its request. -/
def allowed? (policy : OriginPolicy) (origin : Option String) : Option String :=
  match policy with
  | all => some "*"
  | listed origins => origin.filter origins.contains

end OriginPolicy
end Campus
