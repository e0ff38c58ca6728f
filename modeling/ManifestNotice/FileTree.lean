import ManifestNotice.SystemError
import ManifestNotice.Text.Utf8

/-!
# File trees

Files, directories and symbolic links, and how a path leads to one of them.
A place is the list of names from the top down, free of links and dots.
-/

namespace ManifestNotice

abbrev FileName := Bytes

/-- A file has contents; one that can be run says what comes of it. -/
inductive Node (Program : Type) where
  | file (contents : Bytes) (program : Option Program)
  | directory (entries : List (FileName × Node Program))
  | link (target : Bytes)

abbrev FilePlace := List FileName

/-- What a path leads to: something that is there, or a free name in a
directory. -/
inductive Arrival (Program : Type) where
  | node (place : FilePlace) (node : Node Program)
  | vacant (parent : FilePlace) (name : FileName)

namespace Node

variable {Program : Type}

def empty : Node Program := .directory []

def isDirectory : Node Program → Bool
  | .directory _ => true
  | _ => false

def child? (name : FileName) : Node Program → Option (Node Program)
  | .directory entries => (entries.find? (·.1 == name)).map (·.2)
  | _ => none

def at? (tree : Node Program) : FilePlace → Option (Node Program)
  | [] => some tree
  | name :: rest => (tree.child? name).bind (·.at? rest)

def put (tree : Node Program) (name : FileName) (node : Node Program) : Node Program :=
  match tree with
  | .directory entries =>
    if entries.any (·.1 == name) then
      .directory (entries.map fun e => if e.1 == name then (name, node) else e)
    else .directory (entries ++ [(name, node)])
  | other => other

/-- Puts a node at a place, in directories that are made where they are
missing. -/
def putAt (tree : Node Program) (node : Node Program) : FilePlace → Node Program
  | [] => node
  | name :: rest => tree.put name (((tree.child? name).getD .empty).putAt node rest)

def eraseAt (tree : Node Program) : FilePlace → Node Program
  | [] => tree
  | [name] =>
    match tree with
    | .directory entries => .directory (entries.filter (·.1 != name))
    | other => other
  | name :: rest =>
    match tree.child? name with
    | some child => tree.put name (child.eraseAt rest)
    | none => tree

end Node

namespace FilePath

def slash : UInt8 := 0x2F

def components (path : Bytes) : List FileName := (path.splitOn slash).filter (!·.isEmpty)

def isAbsolute (path : Bytes) : Bool := path.head? == some slash

/-- A path that ends in a slash wants a directory. -/
def wantsDirectory (path : Bytes) : Bool := path.getLast? == some slash

def nameLimit : Nat := 255

def pathLimit : Nat := 4095

/-- As many links are followed on one way, and no more. -/
def linkLimit : Nat := 40

def dot : FileName := [0x2E]

def dotDot : FileName := [0x2E, 0x2E]

def ofPlace (place : FilePlace) : Bytes := place.flatMap (slash :: ·)

def join (path name : Bytes) : Bytes :=
  if path.isEmpty || path.getLast? == some slash then path ++ name else path ++ slash :: name

end FilePath

namespace Node

variable {Program : Type}

open FilePath

/-- Follows the names from a directory on. Every link costs one of `links` and
puts the names of its target in front. If a slash follows the last name, in the
path or in a link that it leads to, it `wants` a directory; with `making`, which
may make a file there, that is refused without a look. A directory that was
removed is nowhere in the tree: nothing is found in it, but the way up from it
is still known. -/
def walk (tree : Node Program) (making : Bool) (links : Nat) (wants : Bool) (place : FilePlace)
    (names : List FileName) : Except SystemError (Arrival Program) :=
  match names with
  | [] =>
    match tree.at? place with
    | some (.directory entries) => .ok (.node place (.directory entries))
    | some node => if wants then .error .notDirectory else .ok (.node place node)
    | none => .ok (.node place .empty)
  | name :: rest =>
    if (tree.at? place).any (!·.isDirectory) then .error .notDirectory
    else if name == dot then walk tree making links wants place rest
    else if name == dotDot then walk tree making links wants place.dropLast rest
    else if making && wants && rest.isEmpty then .error .isDirectory
    else
      match tree.at? place with
      | none => .error .missing
      | some folder =>
        if name.length > nameLimit then .error .nameTooLong
        else
          match folder.child? name with
          | none => if rest.isEmpty && !wants then .ok (.vacant place name) else .error .missing
          | some (.link target) =>
            match links with
            | 0 => .error .tooManyLinks
            | links + 1 =>
              if target.isEmpty then .error .missing
              else
                walk tree making links (wants || rest.isEmpty && wantsDirectory target)
                  (if isAbsolute target then [] else place) (components target ++ rest)
          | some _ => walk tree making links wants (place ++ [name]) rest
termination_by (links, names.length)

def arrive (tree : Node Program) (making : Bool) (current : FilePlace) (path : Bytes) :
    Except SystemError (Arrival Program) := do
  if path.contains 0 then throw .nulInPath
  if path.isEmpty then throw .missing
  if path.length > pathLimit then throw .nameTooLong
  tree.walk making linkLimit (wantsDirectory path) (if isAbsolute path then [] else current)
    (components path)

def resolve (tree : Node Program) (current : FilePlace) (path : Bytes) :
    Except SystemError (FilePlace × Node Program) := do
  match ← tree.arrive false current path with
  | .node place node => pure (place, node)
  | .vacant .. => throw .missing

def read (tree : Node Program) (current : FilePlace) (path : Bytes) :
    Except SystemError Bytes := do
  match ← tree.resolve current path with
  | (_, .file contents _) => pure contents
  | (_, .directory _) => throw .isDirectory
  | (_, .link _) => throw .tooManyLinks

def write (tree : Node Program) (current : FilePlace) (path contents : Bytes) :
    Except SystemError (Node Program) := do
  match ← tree.arrive true current path with
  | .node place (.file _ program) => pure (tree.putAt (.file contents program) place)
  | .node _ (.directory _) => throw .isDirectory
  | .node _ (.link _) => throw .tooManyLinks
  | .vacant parent name => pure (tree.putAt (.file contents none) (parent ++ [name]))

end Node

end ManifestNotice
