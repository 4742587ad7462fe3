namespace Tablewright.Text

def byteCount : List Char → Nat
  | [] => 0
  | character :: rest => character.utf8Size + byteCount rest

/-- This function cuts a text behind a number of bytes. There is no cut within a character or
behind the end of the text. -/
def cutAtByte? : List Char → Nat → Option (List Char × List Char)
  | text, 0 => some ([], text)
  | [], _ + 1 => none
  | character :: rest, size + 1 =>
      if character.utf8Size ≤ size + 1 then
        (cutAtByte? rest (size + 1 - character.utf8Size)).map fun (front, back) =>
          (character :: front, back)
      else none

end Tablewright.Text
