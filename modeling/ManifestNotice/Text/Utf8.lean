/-!
# UTF-8

Bytes are read item by item: a character, or the longest start of a
character that goes wrong. Strict reading wants characters only; lenient
reading shows each broken item as U+FFFD.
-/

namespace ManifestNotice

abbrev Bytes := List UInt8

namespace Utf8

def encode (text : List Char) : Bytes := text.flatMap String.utf8EncodeChar

def ofString (text : String) : Bytes := encode text.toList

/-- The low six bits of a continuation byte. -/
def payload (b : UInt8) : Nat := b.toNat % 64

/-- Second bytes that may follow a lead byte of a sequence of two or more;
overlong forms, surrogates and code points past U+10FFFF are ruled out here. -/
def follows (lead second : UInt8) : Bool :=
  let low : UInt8 := if lead == 0xE0 then 0xA0 else if lead == 0xF0 then 0x90 else 0x80
  let high : UInt8 := if lead == 0xED then 0x9F else if lead == 0xF4 then 0x8F else 0xBF
  low ≤ second && second ≤ high

def isTail (b : UInt8) : Bool := 0x80 ≤ b && b ≤ 0xBF

def item (lead : UInt8) (rest : Bytes) : Option Char × Bytes :=
  if lead < 0x80 then (some (Char.ofNat lead.toNat), rest)
  else if 0xC2 ≤ lead && lead ≤ 0xF4 then
    match rest with
    | [] => (none, [])
    | b :: rest =>
      if !follows lead b then (none, b :: rest)
      else if lead < 0xE0 then (some (Char.ofNat (lead.toNat % 32 * 64 + payload b)), rest)
      else
        match rest with
        | [] => (none, [])
        | c :: rest =>
          if !isTail c then (none, c :: rest)
          else if lead < 0xF0 then
            (some (Char.ofNat ((lead.toNat % 16 * 64 + payload b) * 64 + payload c)), rest)
          else
            match rest with
            | [] => (none, [])
            | d :: rest =>
              if !isTail d then (none, d :: rest)
              else
                (some (Char.ofNat
                  (((lead.toNat % 8 * 64 + payload b) * 64 + payload c) * 64 + payload d)), rest)
  else (none, rest)

theorem length_item_le (lead : UInt8) (rest : Bytes) :
    (item lead rest).2.length ≤ rest.length := by
  unfold item
  repeat' split
  all_goals simp only [List.length_cons, List.length_nil]
  all_goals omega

/-- Every item in order, none for a broken one. -/
def items : Bytes → List (Option Char)
  | [] => []
  | lead :: rest => (item lead rest).1 :: items (item lead rest).2
termination_by bytes => bytes.length
decreasing_by exact Nat.lt_succ_of_le (length_item_le lead rest)

def decode? (bytes : Bytes) : Option String := ((items bytes).mapM id).map String.ofList

/-- The replacement character stands for each broken item. -/
def decodeLossy (bytes : Bytes) : String :=
  String.ofList ((items bytes).map (·.getD '\uFFFD'))

def size (text : List Char) : Nat := text.foldr (fun c n => c.utf8Size + n) 0

end Utf8

end ManifestNotice
