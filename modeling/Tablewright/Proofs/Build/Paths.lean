import Tablewright.Build.Replacement
import Tablewright.Build.Rotation
import Tablewright.Proofs.FileTree.Parents

namespace Tablewright

namespace Text

/-- An ending without separators stays with the last piece. -/
theorem pieces_ending (separates : Char → Bool) (text ending : List Char)
    (whole : ∀ character ∈ ending, separates character = false) :
    ∃ front before tail, pieces separates (text ++ ending) = front ++ [tail ++ ending] ∧
      text = before ++ tail ∧ (∀ character ∈ tail, separates character = false) ∧
      (front = [] ∧ before = [] ∨
        front ≠ [] ∧ ∃ character ∈ before, separates character = true) := by
  induction text with
  | nil =>
      refine ⟨[], [], [], ?_, rfl, by simp, .inl ⟨rfl, rfl⟩⟩
      induction ending with
      | nil => rfl
      | cons character rest ih =>
          have others := ih fun other inside => whole other (List.mem_cons_of_mem _ inside)
          simp only [List.nil_append] at others
          simp [pieces, whole character List.mem_cons_self, others]
  | cons character rest ih =>
      obtain ⟨front, before, tail, cut, split, tailWhole, first | ⟨later, found⟩⟩ := ih
      · obtain ⟨rfl, rfl⟩ := first
        rw [List.cons_append, pieces, cut, split]
        by_cases separator : separates character = true
        · exact ⟨[[]], [character], tail, by simp [separator], rfl, tailWhole,
            .inr ⟨by simp, character, List.mem_cons_self, separator⟩⟩
        · rw [Bool.not_eq_true] at separator
          refine ⟨[], [], character :: tail, by simp [separator], rfl, ?_, .inl ⟨rfl, rfl⟩⟩
          simpa [separator] using tailWhole
      · obtain ⟨one, others, rfl⟩ := List.exists_cons_of_ne_nil later
        obtain ⟨slash, inside, separator⟩ := found
        have stays : ∃ slash ∈ character :: before, separates slash = true :=
          ⟨slash, List.mem_cons_of_mem _ inside, separator⟩
        rw [List.cons_append, pieces, cut, split]
        by_cases separator : separates character = true
        · exact ⟨[] :: one :: others, character :: before, tail, by simp [separator], rfl,
            tailWhole, .inr ⟨by simp, stays⟩⟩
        · exact ⟨(character :: one) :: others, character :: before, tail, by simp [separator],
            rfl, tailWhole, .inr ⟨by simp, stays⟩⟩

end Text

namespace FilePath

/-- The last name of a text with an ending has the ending. A name that has a slash is not kept
whole. -/
theorem last_ofText_append (name ending : String) (whole : '/' ∉ ending.toList)
    (some : ending ≠ "") :
    ∃ stem, (ofText (name ++ ending)).last = stem ++ ending ∧ stem ++ ending ≠ name := by
  obtain ⟨front, before, tail, cut, split, tailWhole, place⟩ :=
    Text.pieces_ending (· == '/') name.toList ending.toList (by
      intro character inside
      rw [beq_eq_false_iff_ne]
      intro same
      subst same
      exact whole inside)
  refine ⟨String.ofList tail, ?_, ?_⟩
  · rw [ofText, String.toList_append, cut]
    simp [String.ofList_append]
  · intro equal
    have letters := congrArg String.toList equal
    rw [String.toList_append, String.toList_ofList] at letters
    obtain ⟨_, rfl⟩ | ⟨_, slash, inside, separator⟩ := place
    · rw [split, List.nil_append] at letters
      exact some (by simpa using letters)
    · rw [beq_iff_eq] at separator
      subst separator
      have found : '/' ∈ tail ++ ending.toList := by
        rw [letters, split]
        exact List.mem_append_left tail inside
      obtain inTail | inEnding := List.mem_append.mp found
      · simpa using tailWhole _ inTail
      · exact whole inEnding

theorem ofText_single {name : String} (single : '/' ∉ name.toList) : ofText name = ⟨[], name⟩ := by
  obtain ⟨front, before, tail, cut, split, _, place⟩ :=
    Text.pieces_ending (· == '/') [] name.toList (by
      intro character inside
      rw [beq_eq_false_iff_ne]
      intro equal
      subst equal
      exact single inside)
  obtain ⟨rfl, rfl⟩ := List.append_eq_nil_iff.mp split.symm
  obtain ⟨rfl, _⟩ | ⟨_, _, inside, _⟩ := place
  · rw [List.nil_append] at cut
    rw [ofText, cut]
    simp
  · simp at inside

/-- A name joined to a trimmed path comes behind its parts. -/
theorem join_ofParts_trimParts (absolute : Bool) (parts : List String) (name : String) :
    (ofParts (trimParts absolute parts)).join ⟨[], name⟩ = ⟨trimParts absolute parts, name⟩ := by
  obtain ⟨front, last, trimmed, step, _⟩ | ⟨_, trimmed⟩ := trimParts_cases absolute parts
  · have named : last ≠ "" := by
      intro equal
      subst equal
      cases step
    rw [trimmed, FileTree.ofParts_concat (FileTree.concat_ne_root named)]
    simp [join, isAbsolute, named, FilePath.parts]
  · rw [trimmed]
    cases absolute with
    | true => rfl
    | false => by_cases dot : parts.head? = some "." <;> simp [dot, ofParts, join, isAbsolute,
        FilePath.parts, empty]

end FilePath

open FileTree (IsProperName)

theorem Rotation.asidePath_last (output : FilePath) :
    (asidePath output).last = output.last ++ ending := rfl

theorem Rotation.asidePath_proper (output : FilePath) : IsProperName (asidePath output).last := by
  have long : (output.last ++ ending).length = output.last.length + 5 := String.length_append ..
  exact .of_long (by rw [asidePath_last]; omega)

/-- In a folder the place of the copy is not the place of the output. -/
theorem Rotation.place_ne_copy (folder : Location) (output : FilePath) :
    folder ++ [output.last] ≠ folder ++ [(asidePath output).last] := by
  intro same
  have names := (List.append_singleton_inj.mp same).2
  rw [asidePath_last] at names
  have lengths := congrArg String.length names
  rw [String.length_append] at lengths
  have long : ending.length = 5 := by decide
  omega

theorem Rotation.asidePath_ne (output : FilePath) : asidePath output ≠ output := by
  intro equal
  have lengths := congrArg (fun path => path.last.length) equal
  simp [asidePath_last, ending] at lengths

/-- The name of the temporary file of an output has its ending, and the output has another name. -/
theorem Replacement.temporaryPath_ending {output temporary : FilePath}
    (found : temporaryPath? output = some temporary) :
    ∃ stem, temporary.last = stem ++ ending ∧ output.fileName? ≠ some temporary.last := by
  obtain ⟨name, named, rfl⟩ := Option.map_eq_some_iff.mp found
  obtain ⟨stem, last, different⟩ :=
    FilePath.last_ofText_append name ending (by decide) (by decide)
  have final : (output.withFileName (name ++ ending)).last = stem ++ ending := by
    rw [FilePath.withFileName, FilePath.last_join, last]
  refine ⟨stem, final, ?_⟩
  rw [final, named]
  exact fun equal => different (Option.some.inj equal).symm

/-- The temporary file of an output has another name than the output and than every copy. -/
theorem Replacement.temporaryPath_last {output temporary : FilePath}
    (found : temporaryPath? output = some temporary) :
    IsProperName temporary.last ∧ output.fileName? ≠ some temporary.last ∧
      ∀ other, temporary.last ≠ (Rotation.asidePath other).last := by
  obtain ⟨stem, final, different⟩ := temporaryPath_ending found
  have long : (stem ++ ending).length = stem.length + 4 := String.length_append ..
  refine ⟨.of_long (by rw [final]; omega), different, ?_⟩
  intro other equal
  rw [final] at equal
  have letters := congrArg (fun text => text.toList.getLast?) equal
  simp [Rotation.asidePath_last, ending, Rotation.ending] at letters

/-- The temporary file of a path that ends with a name stands beside it. -/
theorem Replacement.temporaryPath?_proper {output : FilePath}
    (proper : IsProperName output.last) (single : '/' ∉ output.last.toList) :
    temporaryPath? output =
      some ⟨FilePath.trimParts output.isAbsolute output.folders, output.last ++ ending⟩ := by
  have plain : '/' ∉ (output.last ++ ending).toList := by
    rw [String.toList_append, List.mem_append, not_or]
    exact ⟨single, by decide⟩
  rw [temporaryPath?, FilePath.fileName?_proper proper, Option.map_some, FilePath.withFileName,
    FilePath.parent?_proper proper, Option.getD_some, FilePath.ofText_single plain,
    FilePath.join_ofParts_trimParts]

end Tablewright
