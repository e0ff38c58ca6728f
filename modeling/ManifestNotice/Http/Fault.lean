/-!
# Network faults
-/

namespace ManifestNotice.Http

/-- Why a request has no answer. The addresses are written out. -/
inductive Fault where
  | sending (url : String)
  | decoding
  | building (url : Option String)
  | redirecting (url : String)
  deriving BEq, DecidableEq, Repr

def Fault.message : Fault → String
  | .sending url => "error sending request for url (" ++ url ++ ")"
  | .decoding => "error decoding response body"
  | .building none => "builder error"
  | .building (some url) => "builder error for url (" ++ url ++ ")"
  | .redirecting url => "error following redirect for url (" ++ url ++ ")"

end ManifestNotice.Http
