/-!
# The version
-/

namespace ManifestNotice

def version : String := "0.1.0"

end ManifestNotice
