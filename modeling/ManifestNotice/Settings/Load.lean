import ManifestNotice.FileTree
import ManifestNotice.Settings.Overlay

/-!
# Loading settings

The settings file is the one named by the user, or else the nearest one of the
usual name in the current directory and those above it.
-/

namespace ManifestNotice

inductive SettingsFault where
  | unreadable (path : Bytes) (cause : SystemError)
  | notText (path : Bytes)
  | malformed (path : Bytes)
  | offending (path : Bytes) (text : List Char) (offence : Settings.Offence)
  deriving BEq, DecidableEq, Repr

namespace SettingsFault

def message : SettingsFault → String
  | .unreadable path _ | .notText path => "Reading config file " ++ Utf8.decodeLossy path
  | .malformed path | .offending path .. => "Parsing TOML config " ++ Utf8.decodeLossy path

def cause? : SettingsFault → Option String
  | .unreadable _ cause => some cause.message
  | .notText _ => some "stream did not contain valid UTF-8"
  | .malformed _ => none
  | .offending _ text offence => some (offence.report text)

end SettingsFault

namespace Settings

def fileName : FileName := Utf8.ofString "manifest-notify.toml"

variable {Program : Type}

def usualPath (directory : FilePlace) : Bytes :=
  FilePath.join (if directory.isEmpty then [FilePath.slash] else FilePath.ofPlace directory) fileName

def isThere (tree : Node Program) (path : Bytes) : Bool := (tree.resolve [] path).isOk

/-- The first of the directory and those above it that has a settings file.
The place is given from the bottom up. -/
def search (tree : Node Program) : List FileName → Option Bytes
  | [] => if isThere tree (usualPath []) then some (usualPath []) else none
  | name :: above =>
    let path := usualPath (name :: above).reverse
    if isThere tree path then some path else search tree above

def loadFile (tree : Node Program) (current : FilePlace) (path : Bytes) :
    Except SettingsFault Settings :=
  match tree.read current path with
  | .error cause => .error (.unreadable path cause)
  | .ok contents =>
    match Utf8.decode? contents with
    | none => .error (.notText path)
    | some text =>
      match parse text.toList with
      | .ok settings => .ok settings
      | .error .malformed => .error (.malformed path)
      | .error (.offending offence) => .error (.offending path text.toList offence)

/-- Without a file the settings are as they are built in. There is no way up
from a current directory that was removed. -/
def load (tree : Node Program) (current : FilePlace) (chosen : Option Bytes) :
    Except SettingsFault Settings :=
  let found := if (tree.at? current).isSome then search tree current.reverse else none
  match chosen.or found with
  | some path => loadFile tree current path
  | none => .ok {}

end Settings

end ManifestNotice
