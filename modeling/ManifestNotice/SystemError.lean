/-!
# System errors

Why the operating system refuses a path or a program.
-/

namespace ManifestNotice

inductive SystemError where
  | missing
  | denied
  | notDirectory
  | isDirectory
  | nameTooLong
  | tooManyLinks
  /-- A path or a command holds the character that ends such texts. -/
  | nulInPath
  | nulInCommand
  deriving BEq, DecidableEq, Repr

def SystemError.message : SystemError → String
  | .missing => "No such file or directory (os error 2)"
  | .denied => "Permission denied (os error 13)"
  | .notDirectory => "Not a directory (os error 20)"
  | .isDirectory => "Is a directory (os error 21)"
  | .nameTooLong => "File name too long (os error 36)"
  | .tooManyLinks => "Too many levels of symbolic links (os error 40)"
  | .nulInPath => "file name contained an unexpected NUL byte"
  | .nulInCommand => "nul byte found in provided data"

end ManifestNotice
