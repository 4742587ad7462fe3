import Mathlib.Algebra.Group.Nat.Even
import Tablewright.Introspection.Source
import Tablewright.Proofs.Text.CasePair
import Tablewright.Proofs.Text.Joined
import Tablewright.Proofs.Text.Phrases

namespace Tablewright.Text.WholeWord

/-- A text ends with a number of copies of a lead when there are no more of them in front. -/
def EndsWithCopies (lead : List Char) (count : Nat) (text : List Char) : Prop :=
  ∃ front, text = front ++ (List.replicate count lead).flatten ∧ ¬ lead <:+ front

/-- A text is evenly led when an even number of copies of the lead stands at its end. -/
def EvenlyLed (lead text : List Char) : Prop :=
  ∃ count, Even count ∧ EndsWithCopies lead count text

section Copies

variable {lead text : List Char}

theorem copies_succ (lead : List Char) (count : Nat) :
    (List.replicate (count + 1) lead).flatten = (List.replicate count lead).flatten ++ lead := by
  rw [List.replicate_succ', List.flatten_append]
  simp

theorem EndsWithCopies.succ {count : Nat} (ends : EndsWithCopies lead count text) :
    EndsWithCopies lead (count + 1) (text ++ lead) := by
  obtain ⟨front, rfl, free⟩ := ends
  exact ⟨front, by rw [copies_succ, List.append_assoc], free⟩

theorem exists_copies (some : lead ≠ []) (text : List Char) :
    ∃ count, EndsWithCopies lead count text := by
  induction length : text.length using Nat.strong_induction_on generalizing text with
  | _ size hypothesis =>
      by_cases led : lead <:+ text
      · obtain ⟨front, rfl⟩ := led
        have shorter : front.length < size := by
          have filled := List.length_pos_iff.mpr some
          rw [← length, List.length_append]
          omega
        obtain ⟨count, ends⟩ := hypothesis _ shorter front rfl
        exact ⟨count + 1, ends.succ⟩
      · exact ⟨0, text, by simp, led⟩

theorem EndsWithCopies.led {count : Nat} (ends : EndsWithCopies lead (count + 1) text) :
    lead <:+ text := by
  obtain ⟨front, rfl, _⟩ := ends
  exact ⟨front ++ (List.replicate count lead).flatten, by rw [copies_succ, List.append_assoc]⟩

theorem EndsWithCopies.free (ends : EndsWithCopies lead 0 text) : ¬ lead <:+ text := by
  obtain ⟨front, rfl, free⟩ := ends
  simpa using free

theorem copies_unique {count other : Nat} (ends : EndsWithCopies lead count text)
    (otherEnds : EndsWithCopies lead other text) : count = other := by
  induction count generalizing other text with
  | zero =>
      cases other with
      | zero => rfl
      | succ other => exact absurd otherEnds.led ends.free
  | succ count hypothesis =>
      cases other with
      | zero => exact absurd ends.led otherEnds.free
      | succ other =>
          obtain ⟨front, rfl, free⟩ := ends
          obtain ⟨otherFront, same, otherFree⟩ := otherEnds
          rw [copies_succ, copies_succ, ← List.append_assoc, ← List.append_assoc] at same
          rw [hypothesis ⟨front, rfl, free⟩ ⟨otherFront, List.append_cancel_right same, otherFree⟩]

theorem evenlyLed_iff {count : Nat} (ends : EndsWithCopies lead count text) :
    EvenlyLed lead text ↔ Even count := by
  constructor
  · rintro ⟨other, even, otherEnds⟩
    rwa [copies_unique ends otherEnds]
  · intro even
    exact ⟨count, even, ends⟩

end Copies

/-- The lead of a keyword is the keyword and the blank behind it. -/
def leadOf (keyword : List Char) : List Char :=
  keyword ++ [' ']

/-- A phrase is a name behind the lead of a keyword. -/
def phraseOf (keyword name : List Char) : List Char :=
  leadOf keyword ++ name

theorem lead_ne_nil (keyword : List Char) : leadOf keyword ≠ [] := by
  simp [leadOf]

theorem phraseOf_eq (keyword name : List Char) :
    phraseOf keyword name = keyword ++ ' ' :: name := by
  simp [phraseOf, leadOf]

theorem phrase_ne_nil (keyword name : List Char) : phraseOf keyword name ≠ [] := by
  simp [phraseOf, leadOf]

/-- A character in front of a text makes no further copy when no occurrence starts with it. -/
theorem evenlyLed_cons_iff {keyword name before : List Char} {character : Char}
    (early : name <+: keyword)
    (elsewhere : ¬ phraseOf keyword name <+: character :: before ++ phraseOf keyword name) :
    EvenlyLed (leadOf keyword) (character :: before) ↔ EvenlyLed (leadOf keyword) before := by
  obtain ⟨count, front, rfl, free⟩ := exists_copies (lead_ne_nil keyword) before
  have still : EndsWithCopies (leadOf keyword) count
      (character :: (front ++ (List.replicate count (leadOf keyword)).flatten)) := by
    refine ⟨character :: front, by simp, fun led => ?_⟩
    rcases List.suffix_cons_iff.mp led with whole | inside
    · apply elsewhere
      rw [← List.cons_append, ← whole, List.append_assoc]
      refine (List.prefix_append_right_inj _).mpr ?_
      have leads : name <+: leadOf keyword := early.trans (List.prefix_append _ _)
      cases count with
      | zero => simpa [phraseOf] using leads.trans (List.prefix_append _ _)
      | succ count =>
          rw [List.replicate_succ, List.flatten_cons, List.append_assoc]
          exact leads.trans (List.prefix_append _ _)
    · exact free inside
  rw [evenlyLed_iff still, evenlyLed_iff ⟨front, rfl, free⟩]

/-- A keyword and a name can be searched for when the blank between them is the only one, the
name has word characters only, and the first letter of the keyword does not come again in it. -/
structure Searchable (keyword name : List Char) : Prop where
  solid : ' ' ∉ keyword
  single : ∃ first rest, keyword = first :: rest ∧ first ∉ rest
  named : name ≠ []
  wordChars : ∀ character ∈ name, isWordChar character = true

namespace Searchable

variable {keyword name : List Char} (search : Searchable keyword name)
include search

theorem name_solid : ' ' ∉ name :=
  fun inside => absurd (search.wordChars ' ' inside) (by decide)

/-- The blank is not in an ending of the phrase that also starts it, for it would come there as
early as in the whole phrase. -/
theorem blank_mem_front {front border : List Char}
    (whole : phraseOf keyword name = front ++ border)
    (start : border <+: phraseOf keyword name) (moved : front ≠ []) : ' ' ∈ front := by
  rw [phraseOf_eq] at whole start
  by_contra frontSolid
  obtain free | ⟨left, gap, right, rfl, leftFree, isGap⟩ := whole_or_cut (· == ' ') border
  · have inside : ' ' ∈ front ++ border := by
      rw [← whole]
      simp
    rcases List.mem_append.mp inside with before | after
    · exact frontSolid before
    · simpa using free ' ' after
  · obtain rfl := eq_of_beq isGap
    have leftSolid : ' ' ∉ left := fun inside => by simpa using leftFree ' ' inside
    obtain ⟨after, same⟩ := start
    rw [List.append_assoc, List.cons_append] at same
    obtain ⟨rfl, _⟩ := cut_of_chars leftSolid search.solid same
    rw [← List.append_assoc] at whole
    have solid : ' ' ∉ front ++ left := by simp [frontSolid, leftSolid]
    obtain ⟨equal, _⟩ := cut_of_chars search.solid solid whole
    exact moved (by simpa using equal)

/-- What ends a phrase and also starts it lies in its name and starts its keyword. -/
theorem border_cases {front border : List Char} (whole : phraseOf keyword name = front ++ border)
    (start : border <+: phraseOf keyword name) (moved : front ≠ []) :
    ∃ kept, name = kept ++ border ∧ border <+: keyword ∧ front = leadOf keyword ++ kept := by
  have blank := search.blank_mem_front whole start moved
  rw [phraseOf_eq] at whole start
  obtain free | ⟨left, gap, right, rfl, leftFree, isGap⟩ := whole_or_cut (· == ' ') front
  · simpa using free ' ' blank
  · obtain rfl := eq_of_beq isGap
    have leftSolid : ' ' ∉ left := fun inside => by simpa using leftFree ' ' inside
    rw [List.append_assoc, List.cons_append] at whole
    obtain ⟨rfl, rfl⟩ := cut_of_chars search.solid leftSolid whole
    refine ⟨right, rfl, ?_, by simp [leadOf]⟩
    have borderSolid : ' ' ∉ border := fun inside =>
      search.name_solid (List.mem_append_right _ inside)
    obtain within | ⟨more, rfl⟩ :=
      List.prefix_or_prefix_of_prefix start (List.prefix_append keyword _)
    · exact within
    · cases more with
      | nil => simp
      | cons first rest =>
          obtain ⟨rfl, _⟩ := List.cons_prefix_cons.mp ((List.prefix_append_right_inj _).mp start)
          exact absurd (by simp) borderSolid

/-- An occurrence that starts inside another one touches its name, or the whole lead of the other
one stands in front of it. -/
theorem lead_of_overlap {front rest other : List Char}
    (same : phraseOf keyword name ++ rest = front ++ phraseOf keyword name ++ other)
    (moved : front ≠ []) (short : front.length < (phraseOf keyword name).length)
    (bounded : bounds front.getLast? = true) :
    name <+: keyword ∧ front = leadOf keyword := by
  have leads : front <+: phraseOf keyword name ++ rest := by
    rw [same, List.append_assoc]
    exact List.prefix_append _ _
  obtain ⟨border, whole⟩ :=
    List.prefix_of_prefix_length_le leads (List.prefix_append _ rest) short.le
  have behind : border ++ rest = phraseOf keyword name ++ other := by
    nth_rewrite 1 [← whole] at same
    simpa using same
  have start : border <+: phraseOf keyword name := by
    have begins : border <+: phraseOf keyword name ++ other :=
      behind ▸ List.prefix_append border rest
    refine List.prefix_of_prefix_length_le begins (List.prefix_append _ other) ?_
    rw [← whole, List.length_append]
    omega
  obtain ⟨kept, named, within, rfl⟩ := search.border_cases whole.symm start moved
  cases kept using List.reverseRecOn with
  | nil => exact ⟨by simpa [named] using within, by simp⟩
  | append_singleton others last =>
      have touches : isWordChar last = true := search.wordChars last (by simp [named])
      rw [← List.append_assoc, List.getLast?_concat, bounds, touches] at bounded
      cases bounded

/-- A lead that ends behind a phrase but does not lie behind it starts with the name. -/
theorem lead_at_seam {rest : List Char} (early : name <+: keyword)
    (free : ¬ leadOf keyword <:+ rest)
    (led : leadOf keyword <:+ phraseOf keyword name ++ rest) :
    phraseOf keyword name ++ rest = leadOf keyword ++ leadOf keyword := by
  have short : rest <:+ leadOf keyword :=
    (List.suffix_or_suffix_of_suffix led (List.suffix_append _ _)).resolve_left free
  obtain ⟨border, lead⟩ := short
  obtain ⟨front, same⟩ := led
  rw [← lead, ← List.append_assoc] at same
  have whole := (List.append_cancel_right same).symm
  have some : border ≠ [] := by
    rintro rfl
    exact free (by simp [← lead])
  have start : border <+: phraseOf keyword name :=
    ⟨rest ++ name, by rw [← List.append_assoc, lead]; rfl⟩
  have moved : front ≠ [] := by
    rintro rfl
    have longer := congrArg List.length whole
    have whole := congrArg List.length lead
    have filled := List.length_pos_iff.mpr search.named
    simp only [phraseOf, List.nil_append, List.length_append] at longer whole
    omega
  obtain ⟨kept, named, within, rfl⟩ := search.border_cases whole start moved
  obtain ⟨first, others, rfl, single⟩ := search.single
  obtain ⟨head, tail, rfl⟩ := List.exists_cons_of_ne_nil some
  obtain ⟨rfl, _⟩ := List.cons_prefix_cons.mp within
  cases kept with
  | nil => simpa [whole] using lead
  | cons character more =>
      rw [named, List.cons_append] at early
      obtain ⟨_, later⟩ := List.cons_prefix_cons.mp early
      exact absurd (later.subset (by simp)) single

/-- A phrase in front of a text makes no further copies or two of them. -/
theorem evenlyLed_phrase_iff (early : name <+: keyword) {before : List Char} :
    EvenlyLed (leadOf keyword) (phraseOf keyword name ++ before) ↔
      EvenlyLed (leadOf keyword) before := by
  obtain ⟨count, front, rfl, free⟩ := exists_copies (lead_ne_nil keyword) before
  rw [evenlyLed_iff ⟨front, rfl, free⟩]
  by_cases led : leadOf keyword <:+ phraseOf keyword name ++ front
  · have two := search.lead_at_seam early free led
    have more : EndsWithCopies (leadOf keyword) (count + 2) (phraseOf keyword name ++
        (front ++ (List.replicate count (leadOf keyword)).flatten)) := by
      refine ⟨[], ?_, by simp [leadOf]⟩
      rw [← List.append_assoc, two, Nat.add_comm, List.replicate_add, List.flatten_append]
      simp [List.replicate_succ]
    rw [evenlyLed_iff more]
    simp [Nat.even_iff]
  · exact evenlyLed_iff ⟨phraseOf keyword name ++ front, by simp, led⟩

end Searchable

/-- Skipped characters are not looked at, but the last of them stands before the rest. -/
theorem occursFrom_skip (phrase skipped rest : List Char) (previous : Option Char) :
    occursFrom phrase skipped.length previous (skipped ++ rest) =
      occursFrom phrase 0 (skipped.getLast?.or previous) rest := by
  induction skipped generalizing previous with
  | nil => rfl
  | cons character others hypothesis =>
      rw [List.length_cons, List.cons_append, occursFrom, hypothesis, List.getLast?_cons]
      cases others.getLast? <;> rfl

/-- The scan goes on behind an occurrence that is not bounded. -/
theorem occursFrom_phrase {phrase : List Char} (some : phrase ≠ []) (rest : List Char)
    (previous : Option Char) : occursFrom phrase 0 previous (phrase ++ rest) =
      ((bounds previous && bounds rest.head?) || occursFrom phrase 0 phrase.getLast? rest) := by
  obtain ⟨first, others, rfl⟩ := List.exists_cons_of_ne_nil some
  have starts : (first :: others).isPrefixOf (first :: (others ++ rest)) = true := by
    rw [List.isPrefixOf_iff_prefix]
    exact List.prefix_append (first :: others) rest
  have behind : (first :: (others ++ rest)).drop (first :: others).length = rest := by
    simp
  rw [List.cons_append, occursFrom, if_pos starts, behind, List.length_cons, Nat.add_sub_cancel,
    occursFrom_skip, List.getLast?_cons]
  cases others.getLast? <;> rfl

theorem occursFrom_cons {phrase rest : List Char} {character : Char}
    (elsewhere : ¬ phrase <+: character :: rest) (previous : Option Char) :
    occursFrom phrase 0 previous (character :: rest) =
      occursFrom phrase 0 (.some character) rest := by
  rw [occursFrom, if_neg (by rwa [List.isPrefixOf_iff_prefix])]

/-- An occurrence behind a character is found by the scan when it is bounded, and when an even
number of leads stands in front of it in case the name starts the keyword. -/
def Reached (keyword name : List Char) (previous : Option Char) (text : List Char) : Prop :=
  ∃ before after, text = before ++ phraseOf keyword name ++ after ∧
    bounds (before.getLast?.or previous) = true ∧ bounds after.head? = true ∧
    (name <+: keyword → EvenlyLed (leadOf keyword) before)

theorem reached_cons_iff {keyword name rest : List Char} {character : Char}
    (previous : Option Char)
    (elsewhere : ¬ phraseOf keyword name <+: character :: rest) :
    Reached keyword name previous (character :: rest) ↔
      Reached keyword name (.some character) rest := by
  have last : ∀ before : List Char, ((character :: before).getLast?.or previous) =
      before.getLast?.or (.some character) := by
    intro before
    rw [List.getLast?_cons]
    cases before.getLast? <;> rfl
  have evenly : ∀ before after : List Char, rest = before ++ phraseOf keyword name ++ after →
      name <+: keyword →
      (EvenlyLed (leadOf keyword) (character :: before) ↔ EvenlyLed (leadOf keyword) before) := by
    rintro before after rfl early
    refine evenlyLed_cons_iff early fun starts => elsewhere ?_
    exact starts.trans ⟨after, by simp⟩
  constructor
  · rintro ⟨before, after, same, left, right, led⟩
    cases before with
    | nil => exact absurd ⟨after, by simpa using same.symm⟩ elsewhere
    | cons first others =>
        obtain ⟨rfl, rfl⟩ := List.cons.inj same
        exact ⟨others, after, rfl, last others ▸ left, right, fun early =>
          (evenly others after rfl early).mp (led early)⟩
  · rintro ⟨before, after, rfl, left, right, led⟩
    exact ⟨character :: before, after, rfl, (last before).symm ▸ left, right, fun early =>
      (evenly before after rfl early).mpr (led early)⟩

namespace Searchable

variable {keyword name : List Char} (search : Searchable keyword name)
  (previous : Option Char)
include search

theorem reached_phrase_iff {rest : List Char} :
    Reached keyword name previous (phraseOf keyword name ++ rest) ↔
      (bounds previous = true ∧ bounds rest.head? = true) ∨
        Reached keyword name (phraseOf keyword name).getLast? rest := by
  obtain ⟨final, ending⟩ : ∃ final, (phraseOf keyword name).getLast? = .some final :=
    ⟨_, List.getLast?_eq_some_getLast (phrase_ne_nil keyword name)⟩
  have last : ∀ before : List Char, ((phraseOf keyword name ++ before).getLast?.or previous) =
      before.getLast?.or (phraseOf keyword name).getLast? := by
    intro before
    rw [List.getLast?_append, ending]
    cases before.getLast? <;> rfl
  constructor
  · rintro ⟨before, after, same, left, right, led⟩
    by_cases start : before = []
    · subst start
      obtain rfl : rest = after := by simpa using same
      exact .inl ⟨left, right⟩
    · by_cases short : before.length < (phraseOf keyword name).length
      · have bounded : bounds before.getLast? = true := by
          rw [List.getLast?_eq_some_getLast start] at left ⊢
          exact left
        -- the occurrence is hidden: the only lead in front of it is that of the first one
        obtain ⟨early, rfl⟩ := search.lead_of_overlap same start short bounded
        have one : EndsWithCopies (leadOf keyword) 1 (leadOf keyword) :=
          ⟨[], by simp, by simp [leadOf]⟩
        exact absurd ((evenlyLed_iff one).mp (led early)) (by decide)
      · have within : phraseOf keyword name <+: before := by
          refine List.prefix_of_prefix_length_le (List.prefix_append _ rest) ?_
            (Nat.le_of_not_lt short)
          rw [same, List.append_assoc]
          exact List.prefix_append _ _
        obtain ⟨others, rfl⟩ := within
        refine .inr ⟨others, after, ?_, last others ▸ left, right, fun early => ?_⟩
        · rw [List.append_assoc, List.append_assoc] at same
          rw [List.append_assoc]
          exact List.append_cancel_left same
        · exact (search.evenlyLed_phrase_iff early).mp (led early)
  · rintro (⟨left, right⟩ | ⟨before, after, rfl, left, right, led⟩)
    · exact ⟨[], rest, by simp, left, right, fun _ =>
        ⟨0, by decide, [], by simp, by simp [leadOf]⟩⟩
    · exact ⟨phraseOf keyword name ++ before, after, by simp, (last before).symm ▸ left, right,
        fun early => (search.evenlyLed_phrase_iff early).mpr (led early)⟩

/-- The scan finds exactly the occurrences that it reaches. -/
theorem occursFrom_iff (text : List Char) :
    occursFrom (phraseOf keyword name) 0 previous text = true ↔
      Reached keyword name previous text := by
  induction length : text.length using Nat.strong_induction_on generalizing text previous with
  | _ size hypothesis =>
      by_cases starts : phraseOf keyword name <+: text
      · obtain ⟨rest, rfl⟩ := starts
        have shorter : rest.length < size := by
          have filled := List.length_pos_iff.mpr (phrase_ne_nil keyword name)
          rw [← length, List.length_append]
          omega
        rw [occursFrom_phrase (phrase_ne_nil keyword name), search.reached_phrase_iff previous,
          ← hypothesis _ shorter _ rest rfl, Bool.or_eq_true, Bool.and_eq_true]
      · cases text with
        | nil =>
            have none : ¬ Reached keyword name previous [] := by
              rintro ⟨before, after, same, _⟩
              exact phrase_ne_nil keyword name (by simp_all)
            simp [occursFrom, none]
        | cons character rest =>
            have shorter : rest.length < size := by
              rw [← length]
              simp
            rw [occursFrom_cons starts, reached_cons_iff previous starts,
              hypothesis _ shorter _ rest rfl]

end Searchable

/-- A phrase stands whole between two parts of a text when no word character touches it. -/
structure StandsWhole (phrase text before after : List Char) : Prop where
  cut : text = before ++ phrase ++ after
  left : bounds before.getLast? = true
  right : bounds after.head? = true

theorem isWordChar_of_continues {character : Char}
    (continues : Naming.continuesIdentifier character = true) : isWordChar character = true := by
  rw [isWordChar, isAlphanumeric, if_pos (Naming.ascii_of_continues continues), Bool.or_comm]
  exact continues

theorem searchable_struct {name : String} (identifier : Naming.isIdentifier name = true) :
    Searchable "struct".toList name.toList where
  solid := by decide
  single := ⟨'s', "truct".toList, rfl, by decide⟩
  named := by
    intro empty
    rw [Naming.isIdentifier, empty] at identifier
    cases identifier
  wordChars := fun character inside =>
    isWordChar_of_continues (Naming.continues_of_identifier identifier character inside)

/-- The search for a struct finds exactly the places where the keyword and the name stand whole,
except when the name starts the keyword. Then an odd number of keywords in front of a place hides
it. -/
theorem occurs_struct_iff {name : String} (identifier : Naming.isIdentifier name = true)
    (text : String) :
    (occurs ("struct " ++ name) text = true ↔ ∃ before after,
      StandsWhole ("struct " ++ name).toList text.toList before after ∧
        (name.toList <+: "struct".toList → EvenlyLed "struct ".toList before)) ∧
    (¬ name.toList <+: "struct".toList →
      (occurs ("struct " ++ name) text = true ↔ ∃ before after,
        StandsWhole ("struct " ++ name).toList text.toList before after)) := by
  have spelled : ("struct " ++ name).toList = phraseOf "struct".toList name.toList :=
    String.toList_append
  have found : occurs ("struct " ++ name) text = true ↔ ∃ before after,
      StandsWhole ("struct " ++ name).toList text.toList before after ∧
        (name.toList <+: "struct".toList → EvenlyLed "struct ".toList before) := by
    rw [occurs, spelled, (searchable_struct identifier).occursFrom_iff]
    constructor
    · rintro ⟨before, after, cut, left, right, led⟩
      exact ⟨before, after, ⟨cut, by simpa using left, right⟩, led⟩
    · rintro ⟨before, after, ⟨cut, left, right⟩, led⟩
      exact ⟨before, after, cut, by simpa using left, right, led⟩
  refine ⟨found, fun other => ?_⟩
  rw [found]
  constructor
  · rintro ⟨before, after, stands, _⟩
    exact ⟨before, after, stands⟩
  · rintro ⟨before, after, stands⟩
    exact ⟨before, after, stands, fun early => absurd early other⟩

/-- Occurrences that are touched hide no later one, and two keywords in front hide nothing. -/
theorem occurs_struct_iff_item :
    Naming.isIdentifier "Item" = true ∧ Naming.isIdentifier "s" = true ∧
    occurs ("struct " ++ "Item") "pub struct Items, struct Item" = true ∧
    occurs ("struct " ++ "s") "struct struct struct s" = true := by
  have item : Naming.isIdentifier "Item" = true := by decide
  have single : Naming.isIdentifier "s" = true := by decide
  refine ⟨item, single, ?_, ?_⟩
  · apply ((occurs_struct_iff item _).2 (by decide)).mpr
    exact ⟨"pub struct Items, ".toList, [], by decide, by decide, by decide⟩
  · apply (occurs_struct_iff single _).1.mpr
    exact ⟨"struct struct ".toList, [], ⟨by decide, by decide, by decide⟩,
      fun _ => ⟨2, by decide, [], by decide, by decide⟩⟩

/-- The name `s` stands whole behind the second keyword, but the search does not find it. -/
theorem struct_hidden_by_keyword :
    let text := "pub struct struct s;"
    Naming.isIdentifier "s" = true ∧
    StandsWhole ("struct " ++ "s").toList text.toList "pub struct ".toList [';'] ∧
    occurs ("struct " ++ "s") text = false ∧
    ¬ ∀ name text : String, Naming.isIdentifier name = true →
      (occurs ("struct " ++ name) text = true ↔
        ∃ before after, StandsWhole ("struct " ++ name).toList text.toList before after) := by
  intro text
  have single : Naming.isIdentifier "s" = true := by decide
  have stands : StandsWhole ("struct " ++ "s").toList text.toList "pub struct ".toList [';'] :=
    ⟨by decide, by decide, by decide⟩
  have missed : occurs ("struct " ++ "s") text = false := by decide
  refine ⟨single, stands, missed, fun every => ?_⟩
  have found := (every "s" text single).mpr ⟨_, _, stands⟩
  rw [missed] at found
  cases found

end Tablewright.Text.WholeWord
