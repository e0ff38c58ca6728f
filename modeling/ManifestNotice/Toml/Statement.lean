import ManifestNotice.Toml.Number

/-!
# TOML statements

A text is a list of statements, one a line: pairs of a key and a value, and
headers of tables.
-/

namespace ManifestNotice.Toml

inductive Statement where
  | pair (path : List Key) (key : Key) (value : Value) (span : Span)
  | table (path : List Key) (key : Key) (span : Span)
  | tables (path : List Key) (key : Key) (span : Span)
  deriving BEq, DecidableEq, Repr

def splitLast : List Key → Option (List Key × Key)
  | [] => none
  | [key] => some ([], key)
  | key :: rest => (splitLast rest).map fun (path, last) => (key :: path, last)

-- ---------------------------------------------------------------------------
-- Values
-- ---------------------------------------------------------------------------

abbrev Reader (α : Type) := Text → Option (α × Text)

/-- Space, comments and line breaks up to the next character. A comment has to
end in a line break. -/
def skipLines? (inComment : Bool) : Text → Option Text
  | [] => if inComment then none else some []
  | '\n' :: rest => skipLines? false rest
  | '\r' :: '\n' :: rest => skipLines? false rest
  | c :: rest =>
    if inComment then if isPlain c then skipLines? true rest else none
    else if isSpace c then skipLines? false rest
    else if c == '#' then skipLines? true rest
    else some (c :: rest)

def elements? (element : Reader Value) : Nat → Text → Option Text
  | 0, _ => none
  | fuel + 1, text => do
    match ← skipLines? false text with
    | ']' :: rest => some rest
    | text => do
      let (_, rest) ← element text
      match ← skipLines? false rest with
      | ',' :: rest => elements? element fuel rest
      | ']' :: rest => some rest
      | _ => none

def pair? (value : Reader Value) : Reader (List Key × Value × Span) := fun text => do
  let (path, rest) ← path? text
  let rest ← expect? '=' rest
  let rest := skipSpace rest
  let (value, after) ← value rest
  some ((path, value, ⟨rest.length, after.length⟩), after)

def pairs? (value : Reader Value) : Nat → Reader (List (List (List Char)))
  | 0, _ => none
  | fuel + 1, text => do
    let ((path, _), rest) ← pair? value text
    let path := path.map (·.name)
    match skipSpace rest with
    | ',' :: rest => do
      let (paths, rest) ← pairs? value fuel rest
      some (path :: paths, rest)
    | '\x7d' :: rest => some ([path], rest)
    | _ => none

/-- No path leads to or through the end of another. -/
def apart : List (List (List Char)) → Bool
  | [] => true
  | path :: rest =>
    rest.all (fun other => !path.isPrefixOf other && !other.isPrefixOf path) && apart rest

def inlineTable? (value : Reader Value) (text : Text) : Option Text :=
  match skipSpace text with
  | '\x7d' :: rest => some rest
  | text => do
    let (paths, rest) ← pairs? value text.length text
    if apart paths then some rest else none

def simple? (text : Text) : Option (Value × Text) :=
  match text with
  | '"' :: _ | '\'' :: _ => (string? text).map fun (s, rest) => (.text s, rest)
  | 't' :: 'r' :: 'u' :: 'e' :: rest => some (.boolean true, rest)
  | 'f' :: 'a' :: 'l' :: 's' :: 'e' :: rest => some (.boolean false, rest)
  | _ => number? text

def value? : Nat → Reader Value
  | 0, text => simple? text
  | depth + 1, text =>
    match text with
    | '[' :: rest => (elements? (value? depth) text.length rest).map (.sequence, ·)
    | '\x7b' :: rest => (inlineTable? (value? depth) rest).map (.map, ·)
    | _ => simple? text

-- ---------------------------------------------------------------------------
-- Lines
-- ---------------------------------------------------------------------------

def skipComment : Text → Text
  | '#' :: rest => rest.dropWhile isPlain
  | text => text

def lineEnd? (text : Text) : Option Text :=
  match skipComment (skipSpace text) with
  | [] => some []
  | text => newline? text

def header? (text : Text) : Option (Statement × Text) :=
  match text with
  | '[' :: '[' :: rest => do
    let (keys, rest) ← path? rest
    let rest ← (expect? ']' rest).bind (expect? ']')
    let (path, key) ← splitLast keys
    some (.tables path key ⟨text.length, rest.length⟩, rest)
  | '[' :: rest => do
    let (keys, rest) ← path? rest
    let rest ← expect? ']' rest
    let (path, key) ← splitLast keys
    some (.table path key ⟨text.length, rest.length⟩, rest)
  | _ => none

def assignment? (text : Text) : Option (Statement × Text) := do
  let ((keys, value, span), rest) ← pair? (value? depthLimit) text
  let (path, key) ← splitLast keys
  some (.pair path key value span, rest)

def line? (text : Text) : Option (Option Statement × Text) :=
  match skipSpace text with
  | '[' :: rest => do
    let (statement, rest) ← header? ('[' :: rest)
    some (some statement, ← lineEnd? rest)
  | text =>
    match lineEnd? text with
    | some rest => some (none, rest)
    | none => do
      let (statement, rest) ← assignment? text
      some (some statement, ← lineEnd? rest)

def lines? : Nat → Text → Option (List Statement)
  | _, [] => some []
  | 0, _ => none
  | fuel + 1, text => do
    let (statement, rest) ← line? text
    let statements ← lines? fuel rest
    some (statement.toList ++ statements)

def statements? (text : Text) : Option (List Statement) :=
  let body := match text with
    | '\uFEFF' :: rest => rest
    | _ => text
  lines? (body.length + 1) body

end ManifestNotice.Toml
