import ManifestNotice.Commit
import ManifestNotice.Http.Fault

/-!
# Faults

Why a notice was not delivered.
-/

namespace ManifestNotice

inductive Fault where
  | commit (cause : Commit.Fault)
  | auth (reason : String)
  | network (cause : Http.Fault)
  | rejected (status : Nat) (reason : String)
  deriving BEq, DecidableEq, Repr

def Fault.message : Fault → String
  | .commit cause => "Reading latest commit message failed: " ++ cause.message
  | .auth reason => "Authentication against the chat backend failed: " ++ reason
  | .network cause => "Network error talking to the chat backend: " ++ cause.message
  | .rejected status reason =>
    "Chat backend rejected the request (" ++ toString status ++ "): " ++ reason

end ManifestNotice
