/-!
# The notice

What is posted when a new manifest version is available. The developers'
notice quotes the latest commit message; the plain one says only what to run.
-/

namespace ManifestNotice

inductive Variant where
  | developers
  | plain
  deriving BEq, DecidableEq, Repr

def Variant.program : Variant → String
  | .developers => "send-manifest-dev-message"
  | .plain => "send-manifest-message"

namespace Notice

def headline : String := "A new nrf manifest version available."

def instructions (folder : String) : String :=
  "Please run ```git pull``` and ```west update``` in your ```" ++ folder ++ "``` folder"

def plain (folder : String) : String := headline ++ "\n" ++ instructions folder

/-- The line after which the commit message stands. -/
def marker : String := "\nCommit message:\n"

def developers (folder branch commit : String) : String :=
  plain folder ++ ", on the ```" ++ branch ++ "``` branch.\n" ++ marker ++ commit

end Notice

end ManifestNotice
