namespace Tablewright.Text

/-- This function cuts at every separator. There is one piece more than there are separators,
and a piece may be empty. -/
def pieces (separates : Char → Bool) : List Char → List (List Char)
  | [] => [[]]
  | character :: rest =>
      if separates character then [] :: pieces separates rest
      else match pieces separates rest with
        | [] => [[character]]
        | piece :: others => (character :: piece) :: others

def joined (separator : String) (texts : List String) : String :=
  separator.intercalate texts

def ofLines (lines : List String) : String :=
  String.join (lines.map fun line => line ++ "\n")

def withoutLeads (lead : List Char) : (fuel : Nat) → List Char → List Char
  | 0, text => text
  | fuel + 1, text =>
      if lead ≠ [] ∧ lead.isPrefixOf text then withoutLeads lead fuel (text.drop lead.length)
      else text

def contains (phrase : List Char) : List Char → Bool
  | [] => phrase.isEmpty
  | character :: rest => phrase.isPrefixOf (character :: rest) || contains phrase rest

end Tablewright.Text
