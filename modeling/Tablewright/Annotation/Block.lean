import Tablewright.Text.WhiteSpace

namespace Tablewright.Annotation

def upToClose : List Char → Option (List Char × List Char)
  | [] => none
  | [_] => none
  | first :: second :: rest =>
      if first = '*' ∧ second = '/' then some ([], rest)
      else (upToClose (second :: rest)).map fun found => (first :: found.1, found.2)

theorem upToCloseShorter {text content rest : List Char}
    (found : upToClose text = some (content, rest)) : rest.length < text.length := by
  induction text generalizing content rest with
  | nil => simp [upToClose] at found
  | cons first tail inductionHypothesis =>
      cases tail with
      | nil => simp [upToClose] at found
      | cons second others =>
          rw [upToClose] at found
          split at found
          · simp only [Option.some.injEq, Prod.mk.injEq] at found
            simp only [← found.2, List.length_cons]
            omega
          · rw [Option.map_eq_some_iff] at found
            obtain ⟨inner, innerFound, equal⟩ := found
            have shorter : inner.2.length < (second :: others).length :=
              inductionHypothesis innerFound
            simp only [Prod.mk.injEq] at equal
            rw [← equal.2]
            simp only [List.length_cons] at shorter ⊢
            omega

/-- This function lists the contents of the comment blocks of a text from the left. A block ends
at its first closing mark. After an opening mark that has no closing mark there are no blocks. -/
def blocks : List Char → List (List Char)
  | [] => []
  | [_] => []
  | first :: second :: rest =>
      if first = '/' ∧ second = '*' then
        match _found : upToClose rest with
        | some (content, after) => content :: blocks after
        | none => []
      else
        blocks (second :: rest)
  termination_by text => text.length
  decreasing_by
    · have shorter := upToCloseShorter _found
      simp only [List.length_cons]
      omega
    · simp

def isLineEnd (character : Char) : Bool :=
  character == '\n' || character == '\r'

/-- This function lists the tags of a block. A tag starts after an at sign that is not the last
character of its line, and goes to the end of the line. -/
def tags (block : List Char) : List (List Char) :=
  (Text.pieces isLineEnd block).filterMap fun line =>
    match line.dropWhile (· ≠ '@') with
    | _ :: first :: rest => some (Text.trim (first :: rest))
    | _ => none

end Tablewright.Annotation
