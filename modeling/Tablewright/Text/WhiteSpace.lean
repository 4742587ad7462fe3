import Tablewright.Text.Pieces

namespace Tablewright.Text

/-- The white space characters are the five controls from tab to carriage return, the next line
control, and the separators of all kinds. -/
def isWhiteSpace (character : Char) : Bool :=
  let code := character.toNat
  (0x9 ≤ code && code ≤ 0xD) || code == 0x20 || code == 0x85 || code == 0xA0 ||
    code == 0x1680 || (0x2000 ≤ code && code ≤ 0x200A) || code == 0x2028 || code == 0x2029 ||
    code == 0x202F || code == 0x205F || code == 0x3000

def trimEnd (text : List Char) : List Char :=
  (text.reverse.dropWhile isWhiteSpace).reverse

def trim (text : List Char) : List Char :=
  trimEnd (text.dropWhile isWhiteSpace)

def words (text : List Char) : List (List Char) :=
  (pieces isWhiteSpace text).filter fun piece => !piece.isEmpty

end Tablewright.Text
