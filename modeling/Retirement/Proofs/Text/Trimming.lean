import Mathlib.Data.List.DropRight
import Retirement.Text.Blank

/-!
What trimming leaves. A text splits in one way only into blanks, a middle that has no blank at either
end, and blanks again; the middle is the trimmed text.
-/

namespace Retirement.Text

/-- There is no blank between the plain space and the next one of the table. -/
theorem no_blank_between {c : Char} (above : 0x20 < c.toNat) (below : c.toNat < 0x85) :
    isBlank c = false := by
  unfold isBlank blankRanges
  rw [inRanges, if_neg (by omega), if_neg (by omega), inRanges, if_neg (by omega),
    if_neg (by omega), inRanges, if_pos (by omega)]

/-- The text is this middle with blanks around it, and the middle does not begin or end with one. -/
structure Stripped (text middle : List Char) : Prop where
  surrounded : ∃ before after, text = before ++ (middle ++ after) ∧
    (∀ c ∈ before, isBlank c = true) ∧ ∀ c ∈ after, isBlank c = true
  starts : ∀ c ∈ middle.head?, isBlank c = false
  ends : ∀ c ∈ middle.getLast?, isBlank c = false

theorem drop_no_blanks {text : List Char} (starts : ∀ c ∈ text.head?, isBlank c = false) :
    text.dropWhile isBlank = text := by
  cases text with
  | nil => rfl
  | cons c cs =>
      have solid : isBlank c = false := starts c rfl
      exact List.dropWhile_cons_of_neg (Bool.eq_false_iff.mp solid)

theorem drop_leading_blanks {before text : List Char} (blank : ∀ c ∈ before, isBlank c = true)
    (starts : ∀ c ∈ text.head?, isBlank c = false) :
    (before ++ text).dropWhile isBlank = text := by
  rw [List.dropWhile_append_of_pos blank]
  exact drop_no_blanks starts

theorem rest_starts_solid (text : List Char) :
    ∀ c ∈ (text.dropWhile isBlank).head?, isBlank c = false := by
  intro c first
  have stops := List.head?_dropWhile_not isBlank text
  rw [Option.mem_def.mp first] at stops
  exact stops

theorem trim_eq_drop_right (text : List Char) :
    trim text = (text.dropWhile isBlank).rdropWhile isBlank := rfl

theorem stripped_trim (text : List Char) : Stripped text (trim text) where
  surrounded := by
    refine ⟨text.takeWhile isBlank, (text.dropWhile isBlank).rtakeWhile isBlank, ?_, ?_, ?_⟩
    · rw [trim_eq_drop_right, List.rdropWhile_append_rtakeWhile, List.takeWhile_append_dropWhile]
    · intro c member
      exact List.mem_takeWhile_imp member
    · intro c member
      exact List.mem_rtakeWhile_imp member
  starts := by
    intro c first
    obtain ⟨dropped, whole⟩ : trim text <+: text.dropWhile isBlank := List.rdropWhile_prefix _ _
    apply rest_starts_solid text
    rw [← whole, List.head?_append, Option.mem_def.mp first]
    rfl
  ends := by
    intro c last
    apply rest_starts_solid (text.dropWhile isBlank).reverse
    rw [← List.getLast?_reverse]
    exact last

theorem Stripped.trim_eq {text middle : List Char} (stripped : Stripped text middle) :
    trim text = middle := by
  obtain ⟨before, after, rfl, blankBefore, blankAfter⟩ := stripped.surrounded
  cases middle with
  | nil =>
      have blank : ∀ c ∈ before ++ ([] ++ after), isBlank c = true :=
        List.forall_mem_append.mpr ⟨blankBefore, blankAfter⟩
      rw [trim, List.dropWhile_eq_nil_iff.mpr blank]
      rfl
  | cons c cs =>
      have backwards : ∀ d ∈ (c :: cs).reverse.head?, isBlank d = false := by
        rw [List.head?_reverse]
        exact stripped.ends
      have starts : ∀ d ∈ (c :: cs ++ after).head?, isBlank d = false := stripped.starts
      have blankReversed : ∀ d ∈ after.reverse, isBlank d = true := by
        intro d member
        exact blankAfter d (List.mem_reverse.mp member)
      rw [trim, drop_leading_blanks blankBefore starts, List.reverse_append,
        drop_leading_blanks blankReversed backwards, List.reverse_reverse]

theorem stripped_iff {text middle : List Char} : Stripped text middle ↔ trim text = middle := by
  constructor
  · exact Stripped.trim_eq
  · rintro rfl
    exact stripped_trim text

theorem trim_without_blanks {text : List Char} (solid : ∀ c ∈ text, isBlank c = false) :
    trim text = text := by
  apply Stripped.trim_eq
  apply Stripped.mk
  · exact ⟨[], [], (List.append_nil text).symm, nofun, nofun⟩
  · intro c first
    exact solid c (List.mem_of_mem_head? first)
  · intro c last
    exact solid c (List.mem_of_mem_getLast? last)

end Retirement.Text
