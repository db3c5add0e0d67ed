/-!
What a message says.

* `Details`: a headline and the lines under it.
-/

namespace Reckoner

/-- A headline and the lines under it. -/
structure Details where
  headline : String
  lines : List String
deriving DecidableEq

end Reckoner
