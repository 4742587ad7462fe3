import Tablewright.Text.Printable

namespace Tablewright.Text.Quoted

def hexadecimal (number : Nat) : List Char :=
  Nat.toDigits 16 number

def escapeCode (character : Char) : List Char :=
  ['\\', 'u', '\x7b'] ++ hexadecimal character.toNat ++ ['\x7d']

/-- Seven characters have short escapes. The others stand for themselves when they are
printable and do not join the character before them. -/
def escape (character : Char) : List Char :=
  if character == '\x00' then ['\\', '0']
  else if character == '\t' then ['\\', 't']
  else if character == '\r' then ['\\', 'r']
  else if character == '\n' then ['\\', 'n']
  else if character == '\\' then ['\\', '\\']
  else if character == '"' then ['\\', '"']
  else if isPrintable character && !isGraphemeExtend character then [character]
  else escapeCode character

def encode (text : List Char) : List Char :=
  text.flatMap escape

end Quoted

def quoted (text : String) : String :=
  String.ofList ('"' :: Quoted.encode text.toList ++ ['"'])

def quotedPath (path : String) : String :=
  String.ofList ('"' :: path.toList.flatMap (fun character =>
    if character == '\'' then ['\\', '\''] else Quoted.escape character) ++ ['"'])

end Tablewright.Text
