import ManifestNotice.Json

/-!
# Skipping values

A value that is not wanted is read past. Its form must be right, whatever it
holds and however deep it is.
-/

namespace ManifestNotice.Json

def skipWord : List Char → List Char → Except Fault (List Char)
  | [], text => .ok text
  | _ :: _, [] => .error (.before .valueEnds [])
  | c :: word, d :: rest =>
    if c == d then skipWord word rest else .error (.within .wordExpected (d :: rest))

def skipNumeral (text : List Char) : Except Fault (List Char) :=
  (Numeral.read .badNumber false text).map (·.2)

def skipColon (text : List Char) : Except Fault (List Char) :=
  match skipBlanks text with
  | ':' :: rest => .ok rest
  | [] => .error (.within .objectEnds [])
  | rest => .error (.within .colonExpected rest)

mutual

def skipValue : Nat → List Char → Except Fault (List Char)
  | 0, text => .error (.before .valueEnds text)
  | fuel + 1, text =>
    match skipBlanks text with
    | [] => .error (.within .valueEnds [])
    | 'n' :: rest => skipWord ['u', 'l', 'l'] rest
    | 't' :: rest => skipWord ['r', 'u', 'e'] rest
    | 'f' :: rest => skipWord ['a', 'l', 's', 'e'] rest
    | '-' :: rest => skipNumeral rest
    | '"' :: rest => Quoted.skip rest
    | '[' :: rest =>
      match skipBlanks rest with
      | ']' :: rest => .ok rest
      | [] => .error (.within .listEnds [])
      | rest => skipItems fuel rest
    | '\x7b' :: rest =>
      match skipBlanks rest with
      | '\x7d' :: rest => .ok rest
      | [] => .error (.within .objectEnds [])
      | rest => skipMembers fuel rest
    | c :: rest =>
      if c.isDigit then skipNumeral (c :: rest) else .error (.within .valueExpected (c :: rest))

def skipItems : Nat → List Char → Except Fault (List Char)
  | 0, text => .error (.before .valueEnds text)
  | fuel + 1, text =>
    match skipValue fuel text with
    | .error fault => .error fault
    | .ok rest =>
      match skipBlanks rest with
      | ']' :: rest => .ok rest
      | ',' :: rest => skipItems fuel rest
      | [] => .error (.within .listEnds [])
      | rest => .error (.within .commaOrBracketExpected rest)

def skipMembers : Nat → List Char → Except Fault (List Char)
  | 0, text => .error (.before .valueEnds text)
  | fuel + 1, text =>
    match skipBlanks text with
    | '"' :: rest =>
      match Quoted.skip rest >>= skipColon >>= skipValue fuel with
      | .error fault => .error fault
      | .ok rest =>
        match skipBlanks rest with
        | '\x7d' :: rest => .ok rest
        | ',' :: rest => skipMembers fuel rest
        | [] => .error (.within .objectEnds [])
        | rest => .error (.within .commaOrBraceExpected rest)
    | [] => .error (.within .objectEnds [])
    | rest => .error (.within .keyExpected rest)

end

/-- Each character opens two calls at most. -/
def skip (text : List Char) : Except Fault (List Char) := skipValue (2 * text.length + 1) text

end ManifestNotice.Json
