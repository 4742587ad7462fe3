import Tablewright.Proofs.Annotation.Entries

namespace Tablewright.Annotation

/-- A stretch of a text is a filler and the content of the block behind it. -/
structure Stretch where
  filler : List Char
  content : List Char

/-- A division of a text has its stretches in their order and the tail behind the last block. -/
structure Division where
  stretches : List Stretch
  tail : List Char

def Stretch.text (stretch : Stretch) : List Char :=
  stretch.filler ++ openingMark ++ stretch.content ++ closingMark

namespace Division

def text (division : Division) : List Char :=
  division.stretches.flatMap Stretch.text ++ division.tail

/-- This function lists the contents of the blocks. -/
def contents (division : Division) : List (List Char) :=
  division.stretches.map Stretch.content

/-- A division divides a text when no filler opens a block, no content closes one, and no opening
mark in the tail is closed behind it. -/
structure Divides (division : Division) (text : List Char) : Prop where
  whole : division.text = text
  fillers : ∀ stretch ∈ division.stretches, ¬ openingMark <:+: stretch.filler
  contents : ∀ stretch ∈ division.stretches, ¬ closingMark <:+: stretch.content
  tail : ∀ front body, division.tail = front ++ openingMark ++ body → ¬ closingMark <:+: body

end Division

section FirstMark

variable {first second : Char} {front other rest later : List Char}

/-- A mark of two different characters stands nowhere before its first place. -/
theorem later_of_mark (different : first ≠ second) (free : ¬ [first, second] <:+: front)
    (same : front ++ [first, second] ++ rest = other ++ [first, second] ++ later) :
    later <:+ rest := by
  induction front generalizing other with
  | nil =>
      match other with
      | [] =>
          obtain rfl : rest = later := by simpa using same
          exact List.suffix_rfl
      | [_] =>
          have overlap : second = first := by simp_all
          exact absurd overlap.symm different
      | _ :: _ :: others =>
          refine ⟨others ++ [first, second], ?_⟩
          simp only [List.nil_append, List.cons_append, List.cons.injEq] at same
          simp [same.2.2]
  | cons character others hypothesis =>
      cases other with
      | nil =>
          simp only [List.cons_append, List.nil_append, List.cons.injEq] at same
          obtain ⟨rfl, same⟩ := same
          cases others with
          | nil =>
              have overlap : character = second := (List.cons.inj same).1
              exact absurd overlap different
          | cons next last =>
              obtain rfl : next = second := (List.cons.inj same).1
              exact absurd ⟨[], last, rfl⟩ free
      | cons head tail =>
          exact hypothesis (not_infix_of_cons free) (List.cons.inj same).2

/-- A text is cut at its first mark in one way. -/
theorem cut_at_mark (different : first ≠ second) (free : ¬ [first, second] <:+: front)
    (otherFree : ¬ [first, second] <:+: other)
    (same : front ++ [first, second] ++ rest = other ++ [first, second] ++ later) :
    front = other ∧ rest = later := by
  have behind := later_of_mark different free same
  have before := later_of_mark different otherFree same.symm
  obtain rfl : later = rest := behind.eq_of_length_le before.length_le
  exact ⟨List.append_cancel_right (List.append_cancel_right same), rfl⟩

end FirstMark

namespace Division

section Divides

variable {stretch : Stretch} {stretches : List Stretch} {tail text rest : List Char}

/-- Behind the first stretch the others divide what is left. -/
theorem Divides.behind (divides : Divides ⟨stretch :: stretches, tail⟩ text) :
    ∃ rest, text = stretch.filler ++ openingMark ++ (stretch.content ++ closingMark ++ rest) ∧
      Divides ⟨stretches, tail⟩ rest := by
  refine ⟨Division.text ⟨stretches, tail⟩, ?_, rfl, ?_, ?_, divides.tail⟩
  · rw [← divides.whole]
    simp [Division.text, Stretch.text]
  · exact fun other among => divides.fillers other (List.mem_cons_of_mem _ among)
  · exact fun other among => divides.contents other (List.mem_cons_of_mem _ among)

theorem Divides.cons (divides : Divides ⟨stretches, tail⟩ rest)
    (filler : ¬ openingMark <:+: stretch.filler) (content : ¬ closingMark <:+: stretch.content) :
    Divides ⟨stretch :: stretches, tail⟩
      (stretch.filler ++ openingMark ++ stretch.content ++ closingMark ++ rest) where
  whole := by
    rw [← divides.whole]
    simp [Division.text, Stretch.text]
  fillers := List.forall_mem_cons.mpr ⟨filler, divides.fillers⟩
  contents := List.forall_mem_cons.mpr ⟨content, divides.contents⟩
  tail := divides.tail

/-- A text without a block is all tail. -/
theorem Divides.of_tail
    (tail : ∀ front body, text = front ++ openingMark ++ body → ¬ closingMark <:+: body) :
    Divides ⟨[], text⟩ text :=
  ⟨rfl, by simp, by simp, tail⟩

/-- What no block goes through has no stretch. -/
theorem Divides.not_tail (divides : Divides ⟨stretch :: stretches, tail⟩ text) :
    ¬ Divides ⟨[], rest⟩ text := by
  intro bare
  obtain ⟨later, same, _⟩ := divides.behind
  have whole : rest = text := bare.whole
  exact bare.tail _ _ (whole.trans same) ⟨stretch.content, later, rfl⟩

theorem Divides.unique {division other : Division} (divides : division.Divides text)
    (otherDivides : other.Divides text) : division = other := by
  obtain ⟨stretches, tail⟩ := division
  obtain ⟨otherStretches, otherTail⟩ := other
  induction stretches generalizing otherStretches text with
  | nil =>
      cases otherStretches with
      | nil =>
          have same : tail = otherTail := divides.whole.trans otherDivides.whole.symm
          rw [same]
      | cons second others => exact absurd divides otherDivides.not_tail
  | cons first rest hypothesis =>
      cases otherStretches with
      | nil => exact absurd otherDivides divides.not_tail
      | cons second others =>
          obtain ⟨later, rfl, behind⟩ := divides.behind
          obtain ⟨otherLater, same, otherBehind⟩ := otherDivides.behind
          obtain ⟨fillers, same⟩ := cut_at_mark (by decide)
            (divides.fillers first List.mem_cons_self)
            (otherDivides.fillers second List.mem_cons_self) same
          obtain ⟨contents, rfl⟩ := cut_at_mark (by decide)
            (divides.contents first List.mem_cons_self)
            (otherDivides.contents second List.mem_cons_self) same
          obtain ⟨rfl, rfl⟩ := Division.mk.inj (hypothesis behind others otherBehind)
          obtain rfl : first = second := by
            cases first
            cases second
            simp_all
          rfl

end Divides

/-- The blocks of a text belong to a division of it. -/
theorem divides_of_blocked {text : List Char} {blocks : List (List Char)}
    (blocked : Blocked text blocks) :
    ∃ division : Division, division.Divides text ∧ division.contents = blocks := by
  induction blocked with
  | @none text free =>
      refine ⟨⟨[], text⟩, .of_tail ?_, rfl⟩
      rintro front body rfl
      exact absurd ⟨front, body, rfl⟩ free
  | @unclosed front body frontFree bodyFree =>
      refine ⟨⟨[], front ++ openingMark ++ body⟩, .of_tail ?_, rfl⟩
      intro other later same closed
      have behind := later_of_mark (by decide) frontFree same
      exact bodyFree (closed.trans behind.isInfix)
  | @block front content rest others frontFree contentFree later hypothesis =>
      obtain ⟨⟨stretches, tail⟩, divides, contents⟩ := hypothesis
      refine ⟨⟨⟨front, content⟩ :: stretches, tail⟩, divides.cons frontFree contentFree, ?_⟩
      rw [← contents]
      rfl

/-- Any division of a text has its blocks. -/
theorem Divides.blocks_eq {division : Division} {text : List Char}
    (divides : division.Divides text) : blocks text = division.contents := by
  obtain ⟨found, finds, contents⟩ := divides_of_blocked (blocked_blocks text)
  rw [divides.unique finds, contents]

/-- The blocks of another text follow when the tail does not open one at the seam. -/
theorem Divides.blocks_append {division : Division} {text later : List Char}
    (divides : division.Divides text) (free : ¬ openingMark <:+: division.tail)
    (seam : ¬ (division.tail.getLast? = some '/' ∧ later.head? = some '*')) :
    blocks (text ++ later) = blocks text ++ blocks later := by
  rw [divides.blocks_eq]
  obtain ⟨stretches, tail⟩ := division
  induction stretches generalizing text with
  | nil =>
      obtain rfl : tail = text := divides.whole
      exact blocks_seam free seam
  | cons first others hypothesis =>
      obtain ⟨rest, rfl, behind⟩ := divides.behind
      have grouped : first.filler ++ openingMark ++ (first.content ++ closingMark ++ rest) ++
          later = first.filler ++ openingMark ++ first.content ++ closingMark ++
            (rest ++ later) := by simp
      rw [grouped, blocks_block (divides.fillers first List.mem_cons_self)
        (divides.contents first List.mem_cons_self), hypothesis behind free seam]
      rfl

end Division

/-- A text is divided in exactly one way, and the contents of this division are the blocks that are
read. What is read from a text and from another one behind it is read from both together when the
tail of the first opens no block and makes no mark with the second. -/
theorem extract_divided (origin : FilePath) (text : String) :
    (∃! division : Division, division.Divides text.toList) ∧
    ∀ division : Division, division.Divides text.toList →
      (∀ context, extract origin text context = readBlocks origin division.contents context) ∧
      (¬ openingMark <:+: division.tail → ∀ later : String,
        ¬ (division.tail.getLast? = some '/' ∧ later.toList.head? = some '*') →
        ∀ context,
          (extract origin (text ++ later) context).1 =
            (extract origin text {}).1 ++ (extract origin later {}).1 ∧
          (extract origin (text ++ later) context).2.diagnostics = context.diagnostics ++
            ((extract origin text {}).2.diagnostics ++
              (extract origin later {}).2.diagnostics)) := by
  constructor
  · obtain ⟨division, divides, _⟩ := Division.divides_of_blocked (blocked_blocks text.toList)
    exact ⟨division, divides, fun other otherDivides => otherDivides.unique divides⟩
  · intro division divides
    refine ⟨fun context => by rw [extract, divides.blocks_eq], ?_⟩
    intro free later seam context
    have joined : blocks (text ++ later).toList = blocks text.toList ++ blocks later.toList := by
      rw [String.toList_append]
      exact divides.blocks_append free seam
    constructor
    · rw [extract_filterMap, extract_filterMap, extract_filterMap, joined, List.filterMap_append]
    · rw [extract_diagnostics, extract_diagnostics, extract_diagnostics, joined,
        List.flatMap_append]
      rfl

/-- A block does not end with the star of its own opening mark, and a slash before a block leaves
it alone. -/
theorem extract_divided_slash :
    let origin := FilePath.ofText "c_a.rs"
    let text := "/*/@A*/ /"
    let division : Division := ⟨[⟨[], "/@A".toList⟩], " /".toList⟩
    division.Divides text.toList ∧
    ((extract origin (text ++ "/* @B */") {}).1.map TableEntry.name) = ["A", "B"] := by
  intro origin text division
  have divides : division.Divides text.toList := by
    refine ⟨by decide, by decide, by decide, ?_⟩
    intro front body same
    have free : ¬ openingMark <:+: division.tail := by decide
    exact absurd ⟨front, body, same.symm⟩ free
  have both := ((extract_divided origin text).2 division divides).2 (by decide) "/* @B */"
    (by decide) {}
  refine ⟨divides, ?_⟩
  rw [both.1, List.map_append]
  decide +kernel

end Tablewright.Annotation
