import ManifestNotice.ManPage
import ManifestNotice.Program

/-!
# Running the programs

What runs depends on the name that the program goes by. Settings, credentials
and arguments are those of the process. Other programs are not started and no
connection is opened: the search path is empty, and no server is in reach.
-/

namespace ManifestNotice

namespace Console

/-- The place of a path, dots followed by name. -/
def placeOf (path : Bytes) : FilePlace :=
  (FilePath.components path).foldl (fun place name =>
    if name == FilePath.dot then place
    else if name == FilePath.dotDot then place.dropLast
    else place ++ [name]) []

def absolute (current : FilePlace) (path : Bytes) : Bytes :=
  if FilePath.isAbsolute path then path else FilePath.join (FilePath.ofPlace current) path

def textOf (path : Bytes) : String := Utf8.decodeLossy path

def nodeAt (path : String) : IO (Option (Node Commit.Outcome)) := do
  try
    if ← (← IO.FS.realPath path).isDir then return some .empty
    let contents ← IO.FS.readBinFile path
    return some (.file contents.toList none)
  catch _ => return none

def nowhere : FilePlace := [[]]

def treeOf (current : FilePlace) (paths : List Bytes) : IO (Node Commit.Outcome) :=
  paths.foldlM (fun tree path => do
    let path := absolute current path
    match ← nodeAt (textOf path) with
    | some node => return tree.putAt node (placeOf path)
    | none => return tree) (if current == nowhere then .empty else Node.empty.putAt .empty current)

def settingsPaths (current : FilePlace) (arguments : List Bytes) : List Bytes :=
  match CommandLine.parse arguments with
  | .ok { config := some path, .. } => [path]
  | _ => (List.range (current.length + 1)).map fun n => Settings.usualPath (current.take n)

def currentPlace : IO FilePlace := do
  try
    return placeOf (Utf8.ofString (← IO.currentDir).toString)
  catch _ => return nowhere

def environment : IO Environment := do
  let names := [Credentials.idVariable, Credentials.secretVariable, Program.filterVariable]
  let values ← names.mapM fun name => return (name, ← IO.getEnv name)
  return values.filterMap fun (name, value) => value.map fun value => (name, Utf8.ofString value)

def machine (arguments : List Bytes) : IO Machine := do
  let current ← currentPlace
  let files ← treeOf current (settingsPaths current arguments)
  return {
    place := { files, current, searchPath := [] }
    environment := ← environment
    network := Http.Network.cutOff }

def sayLine (text : String) : IO Unit := do
  unless text.isEmpty do (← IO.getStderr).putStrLn text

def runNotice (variant : Variant) (arguments : List Bytes) : IO UInt32 := do
  let machine ← machine arguments
  let start : Run := { session := { backend := { script := [], clock := 0 } } }
  let ending := Program.run machine variant arguments start
  IO.print ending.stdout
  ending.logged.forM fun event => sayLine event.line
  sayLine ending.complaint
  return ending.exit.toUInt32

def runManPages (arguments : List Bytes) : IO UInt32 := do
  let folder := arguments.head?.getD FilePath.dot
  try
    [Variant.developers, .plain].forM fun variant => do
      let path := textOf (ManPage.path folder variant)
      IO.FS.writeFile path (ManPage.text variant.program)
      sayLine (ManPage.report path)
    return 0
  catch fault =>
    sayLine ("Error: " ++ toString fault)
    return 1

end Console

end ManifestNotice

open ManifestNotice in
def main (arguments : List String) : IO UInt32 := do
  let arguments := arguments.map Utf8.ofString
  let name := (← IO.appPath).fileName.getD ""
  if name == ManPage.generator then Console.runManPages arguments
  else
    let variants := [Variant.developers, .plain]
    Console.runNotice ((variants.find? (·.program == name)).getD .developers) arguments
