import ManifestNotice.CommandLine
import ManifestNotice.FileTree

/-!
# Manual pages

The manual page of each program, and the files it is written to.
-/

namespace ManifestNotice

namespace ManPage

-- ---------------------------------------------------------------------------
-- The text
-- ---------------------------------------------------------------------------

/-- Hyphens that stay hyphens. -/
def escaped (text : String) : String :=
  String.ofList (text.toList.flatMap fun c => if c == '-' then ['\\', '-'] else [c])

def bold (text : String) : String := "\\fB" ++ escaped text ++ "\\fR"

def italic (text : String) : String := "\\fI" ++ escaped text ++ "\\fR"

def forms (flag : CommandLine.Flag) : List String :=
  let short := flag.letter?.map fun letter => "-" ++ String.singleton (Char.ofNat letter.toNat)
  (short.toList ++ ["--" ++ flag.name]).map bold

def usage (flag : CommandLine.Flag) : String :=
  "[" ++ "|".intercalate (forms flag) ++ "]" ++ (if flag.isCounted then "..." else "")

def value (flag : CommandLine.Flag) : String :=
  (flag.valueName?.map fun name => " " ++ italic ("<" ++ name ++ ">")).getD ""

def entry (flag : CommandLine.Flag) : List String :=
  [".TP", ", ".intercalate (forms flag) ++ value flag, escaped flag.purpose]

def text (program : String) : String :=
  "\n".intercalate <|
    [".ie \\n(.g .ds Aq \\(aq",
     ".el .ds Aq '",
     ".TH " ++ program ++ " 1  \"" ++ program ++ " " ++ version ++ "\" ",
     ".SH NAME",
     escaped program ++ " \\- " ++ escaped CommandLine.summary,
     ".SH SYNOPSIS",
     " ".intercalate (bold program :: CommandLine.Flag.all.map usage) ++ " ",
     ".SH DESCRIPTION",
     escaped CommandLine.summary,
     ".SH OPTIONS"] ++
    CommandLine.Flag.all.flatMap entry ++
    [".SH VERSION", "v" ++ version, ""]

-- ---------------------------------------------------------------------------
-- The files
-- ---------------------------------------------------------------------------

def path (folder : Bytes) (variant : Variant) : Bytes :=
  FilePath.join folder (Utf8.ofString (variant.program ++ ".1"))

def generator : String := "gen-man"

def report (path : String) : String := "Generated man page at " ++ path

structure Outcome (Program : Type) where
  files : Node Program
  reports : List String := []
  fault : Option SystemError := none

variable {Program : Type}

/-- Writes one page after the other; the first that cannot be written ends
it. -/
def writeAll (current : FilePlace) (folder : Bytes) :
    List Variant → Outcome Program → Outcome Program
  | [], outcome => outcome
  | variant :: rest, outcome =>
    let path := path folder variant
    match outcome.files.write current path (Utf8.ofString (text variant.program)) with
    | .error fault => { outcome with fault := some fault }
    | .ok files =>
      writeAll current folder rest
        { outcome with
          files
          reports := outcome.reports ++ [report (Utf8.decodeLossy path)] }

namespace Outcome

def complaint (outcome : Outcome Program) : String :=
  let fault := outcome.fault.map fun fault => "Error: " ++ fault.message
  String.join ((outcome.reports ++ fault.toList).map (· ++ "\n"))

def exitCode (outcome : Outcome Program) : Nat := if outcome.fault.isSome then 1 else 0

end Outcome

def generate (files : Node Program) (current : FilePlace) (arguments : List Bytes) :
    Outcome Program :=
  writeAll current (arguments.head?.getD FilePath.dot) [.developers, .plain] { files }

end ManPage

end ManifestNotice
