import ManifestNotice.Toml.Statement

/-!
# TOML documents

What a list of statements defines. Every table and key has a place, and what
stands at a place decides which later statements may still reach it. Of the
result only the entries at the top are kept, in order.
-/

namespace ManifestNotice.Toml

/-- A step to a table by its name; in an array of tables, with the number of
the element. -/
abbrev Place := List (List Char × Nat)

inductive Definition where
  | value
  /-- A table that dotted keys opened. -/
  | dotted
  /-- A table that stands only in the header of another. -/
  | implicit
  | table
  | tables (count : Nat)
  deriving BEq, DecidableEq, Repr

/-- An entry at the top, with the part of the text to point at for its value. -/
structure Entry where
  key : Key
  value : Value
  span : Span
  deriving BEq, DecidableEq, Repr

structure Document where
  definitions : List (Place × Definition) := []
  entries : List Entry := []
  /-- The table that pairs go to. -/
  current : Place := []
  deriving BEq, DecidableEq, Repr

namespace Document

def find? (doc : Document) (place : Place) : Option Definition :=
  (doc.definitions.find? (·.1 == place)).map (·.2)

def define (doc : Document) (place : Place) (definition : Definition) : Document :=
  { doc with definitions := (place, definition) :: doc.definitions }

/-- A new entry, if the place it is defined in is the top. -/
def enter (doc : Document) (parent : Place) (entry : Entry) : Document :=
  if parent.isEmpty then { doc with entries := doc.entries ++ [entry] } else doc

/-- The part to point at reaches on to where the given part ends. -/
def extend (doc : Document) (place : Place) (span : Span) : Document :=
  match place with
  | [(name, _)] =>
    { doc with entries := doc.entries.map fun e =>
        if e.key.name == name then { e with span := { e.span with closed := span.closed } } else e }
  | _ => doc

def descend? (doc : Document) (opened : Definition) (place : Place) :
    List Key → Option (Document × Place)
  | [] => some (doc, place)
  | key :: rest =>
    let next := place ++ [(key.name, 0)]
    match doc.find? next with
    | none =>
      let doc := (doc.define next opened).enter place ⟨key, .map, key.span⟩
      doc.descend? opened next rest
    | some .value => none
    | some (.tables count) => doc.descend? opened (place ++ [(key.name, count)]) rest
    | some .table => if opened == .dotted then none else doc.descend? opened next rest
    | some .implicit | some .dotted => doc.descend? opened next rest

/-- A pair under dotted keys goes only to a table that dotted keys opened. -/
def addPair? (doc : Document) (path : List Key) (key : Key) (value : Value) (span : Span) :
    Option Document := do
  let (doc, place) ← doc.descend? .dotted doc.current path
  if !path.isEmpty && doc.find? place != some .dotted then none
  else
    let here := place ++ [(key.name, 0)]
    if (doc.find? here).isSome then none
    else
      let doc := (doc.define here .value).enter place ⟨key, value, span⟩
      some (doc.extend doc.current span)

/-- A table may have stood in headers before; its entry then moves to the end. -/
def openTable? (doc : Document) (path : List Key) (key : Key) (span : Span) : Option Document := do
  let (doc, place) ← doc.descend? .implicit [] path
  let here := place ++ [(key.name, 0)]
  let doc ← match doc.find? here with
    | none => some doc
    | some .implicit =>
      if place.isEmpty then
        some { doc with entries := doc.entries.filter (·.key.name != key.name) }
      else some doc
    | some _ => none
  let doc := (doc.define here .table).enter place ⟨key, .map, span⟩
  some { doc with current := here }

def openElement? (doc : Document) (path : List Key) (key : Key) (span : Span) :
    Option Document := do
  let (doc, place) ← doc.descend? .implicit [] path
  let here := place ++ [(key.name, 0)]
  let (doc, count) ← match doc.find? here with
    | none => some (doc.enter place ⟨key, .sequence, span⟩, 1)
    | some (.tables count) => some (doc.extend here span, count + 1)
    | some _ => none
  some { doc.define here (.tables count) with current := place ++ [(key.name, count)] }

def add? (doc : Document) : Statement → Option Document
  | .pair path key value span => doc.addPair? path key value span
  | .table path key span => doc.openTable? path key span
  | .tables path key span => doc.openElement? path key span

end Document

def parse? (text : Text) : Option (List Entry) := do
  let statements ← statements? text
  let doc ← statements.foldlM Document.add? {}
  some doc.entries

end ManifestNotice.Toml
