import Retirement.Proofs.Json.Layout
import Retirement.Proofs.Text.Numeral

/-!
Reading numbers. A plain integer is read as its value; any number that is passed over, and any that
is read at all, is left exactly where its text ends.
-/

namespace Retirement.Json

/-- A plain decimal integer: no sign, no leading zero, no point and no exponent. -/
def IntegerText (value : Nat) (text : List Char) : Prop :=
  WholePart text ∧ Text.Numeral Text.decimalDigit? 10 text value

theorem integer_text_starts {value : Nat} {text : List Char} (written : IntegerText value text) :
    ∃ c rest, text = c :: rest ∧ isDigit c = true := by
  obtain ⟨⟨⟨present, all⟩, _⟩, _⟩ := written
  cases text with
  | nil => exact absurd rfl present
  | cons c rest => exact ⟨c, rest, rfl, all c List.mem_cons_self⟩

theorem space_eq {c : Char} (space : isSpace c = true) :
    c = ' ' ∨ c = '\n' ∨ c = '\t' ∨ c = '\r' := by
  simpa [isSpace, or_assoc] using space

/-- No number goes on where a value ends. -/
theorem ends_number {tail : List Char} (ends : Ends tail) :
    startsWithDigit tail = false ∧ tail.head? ≠ some '.' ∧ tail.head? ≠ some 'e' ∧
      tail.head? ≠ some 'E' := by
  cases tail with
  | nil => simp [startsWithDigit]
  | cons c rest =>
      have after := ends c rfl
      have other : isDigit c = false ∧ c ≠ '.' ∧ c ≠ 'e' ∧ c ≠ 'E' := by
        rcases after with space | rfl | rfl | rfl
        · rcases space_eq space with rfl | rfl | rfl | rfl
          all_goals decide
        all_goals decide
      simpa [startsWithDigit] using other

theorem starts_with_digit_append {run : List Char} (digits : DigitRun run) (rest : List Char) :
    startsWithDigit (run ++ rest) = true := by
  obtain ⟨present, all⟩ := digits
  cases run with
  | nil => exact absurd rfl present
  | cons c cs => exact all c List.mem_cons_self

theorem spare_digits_at_end {rest : List Char} (stops : startsWithDigit rest = false)
    (count offset : Nat) : spareDigits count offset rest = (count, ⟨offset, rest⟩) := by
  cases rest with
  | nil => rfl
  | cons c rest => exact if_neg (Bool.eq_false_iff.mp stops)

theorem spare_digits_run {run : List Char} (all : ∀ c ∈ run, isDigit c = true) {rest : List Char}
    (stops : startsWithDigit rest = false) (count offset : Nat) :
    spareDigits count offset (run ++ rest) =
      (count + run.length, ⟨offset + run.length, rest⟩) := by
  induction run generalizing count offset with
  | nil => exact spare_digits_at_end stops count offset
  | cons c cs ih =>
      obtain ⟨first, later⟩ := List.forall_mem_cons.mp all
      rw [List.cons_append, spareDigits, if_pos first, ih later, List.length_cons]
      simp only [Nat.add_comm, Nat.add_left_comm]

theorem fitting_digits_at_end {rest : List Char} (stops : startsWithDigit rest = false)
    (significand offset : Nat) :
    fittingDigits significand offset rest = (significand, ⟨offset, rest⟩) := by
  cases rest with
  | nil => rfl
  | cons c rest =>
      have unknown : Text.decimalDigit? c = none :=
        Option.isNone_iff_eq_none.mp (Option.isSome_eq_false_iff.mp stops)
      rw [fittingDigits, unknown]

theorem fitting_digits_known {text : List Char} {digits : List Nat}
    (known : text.map Text.decimalDigit? = digits.map some) {value : Nat}
    (fits : Text.gather 10 value digits ≤ Text.maxWord) {rest : List Char}
    (stops : startsWithDigit rest = false) (offset : Nat) :
    fittingDigits value offset (text ++ rest) =
      (Text.gather 10 value digits, ⟨offset + text.length, rest⟩) := by
  induction text generalizing digits value offset with
  | nil =>
      have nothing : digits = [] := List.map_eq_nil_iff.mp known.symm
      rw [nothing]
      exact fitting_digits_at_end stops value offset
  | cons c cs ih =>
      obtain ⟨digit, others, rfl, first, later⟩ := List.map_eq_cons_iff.mp known.symm
      have stepFits : 10 * value + digit ≤ Text.maxWord :=
        (Text.le_gather (by decide) _ others).trans fits
      rw [List.cons_append, fittingDigits, ← first]
      simp only [if_pos stepFits]
      rw [ih later.symm fits, List.length_cons, Nat.add_right_comm]
      rfl

/-- The digits that do not fit are left to be walked over, and both together take the whole run. -/
theorem spare_after_fitting {run : List Char} (all : ∀ c ∈ run, isDigit c = true)
    {rest : List Char} (stops : startsWithDigit rest = false) (significand offset : Nat) :
    ∃ longer fitting lost after,
      fittingDigits significand offset (run ++ rest) = (longer, fitting) ∧
        spareDigits 0 fitting.offset fitting.rest = (lost, ⟨after, rest⟩) := by
  induction run generalizing significand offset with
  | nil =>
      exact ⟨significand, _, 0, offset, fitting_digits_at_end stops significand offset,
        spare_digits_at_end stops 0 offset⟩
  | cons c cs ih =>
      obtain ⟨first, later⟩ := List.forall_mem_cons.mp all
      obtain ⟨digit, known⟩ := Option.isSome_iff_exists.mp first
      rw [List.cons_append, fittingDigits, known]
      simp only
      split_ifs
      · exact ih later _ _
      · exact ⟨significand, _, _, _, rfl, spare_digits_run all stops 0 offset⟩

theorem read_tail_at_end {tail : List Char} (ends : Ends tail) (negative : Bool)
    (significand lost offset : Nat) :
    readTail negative significand lost ⟨offset, tail⟩ =
      if lost = 0 then .ok (integer negative significand, ⟨offset, tail⟩)
      else scaled negative significand lost ⟨offset, tail⟩ := by
  obtain ⟨_, noPoint, noLower, noUpper⟩ := ends_number ends
  unfold readTail
  split
  · simp_all
  · simp_all
  · simp_all
  · rfl

theorem read_magnitude_zero {rest : List Char} (stops : startsWithDigit rest = false)
    (negative : Bool) (offset : Nat) :
    readMagnitude negative ⟨offset, '0' :: rest⟩ = readTail negative 0 0 ⟨offset + 1, rest⟩ := by
  simp [readMagnitude, stops]

theorem read_magnitude_run {c : Char} {cs : List Char} (digit : isDigit c = true) (other : c ≠ '0')
    (negative : Bool) (offset : Nat) (rest : List Char) :
    readMagnitude negative ⟨offset, c :: cs ++ rest⟩ =
      let fitting := fittingDigits 0 offset (c :: cs ++ rest)
      let spare := spareDigits 0 fitting.2.offset fitting.2.rest
      readTail negative fitting.1 spare.1 spare.2 := by
  simp [readMagnitude, digit, other]

theorem whole_part_cases {whole : List Char} (wholePart : WholePart whole) :
    whole = ['0'] ∨ ∃ c cs, whole = c :: cs ∧ isDigit c = true ∧ c ≠ '0' ∧
      ∀ d ∈ c :: cs, isDigit d = true := by
  obtain ⟨⟨present, all⟩, alone⟩ := wholePart
  cases whole with
  | nil => exact absurd rfl present
  | cons c cs =>
      by_cases zero : c = '0'
      · exact Or.inl (alone (congrArg some zero))
      · exact Or.inr ⟨c, cs, rfl, all c List.mem_cons_self, zero, all⟩

theorem read_integer {value : Nat} {text : List Char} (written : IntegerText value text)
    (fits : value ≤ Text.maxWord) {tail : List Char} (ends : Ends tail) (offset : Nat) :
    ∃ after, readMagnitude false ⟨offset, text ++ tail⟩ = .ok (.natural value, ⟨after, tail⟩) := by
  obtain ⟨wholePart, _, digits, known, rfl⟩ := written
  have stops := (ends_number ends).1
  rw [← Text.gather_zero_eq_of_digits] at fits ⊢
  rcases whole_part_cases wholePart with rfl | ⟨c, cs, rfl, digit, other, _⟩
  · have zero : digits = [0] := by
      obtain ⟨value, others, rfl, first, later⟩ := List.map_eq_cons_iff.mp known.symm
      rw [List.map_eq_nil_iff.mp later, Option.some.inj first]
      rfl
    refine ⟨offset + 1, ?_⟩
    rw [zero, List.singleton_append, read_magnitude_zero stops, read_tail_at_end ends]
    rfl
  · refine ⟨offset + (c :: cs).length, ?_⟩
    rw [read_magnitude_run digit other, fitting_digits_known known fits stops]
    simp only [spare_digits_at_end stops, read_tail_at_end ends, if_true]
    rfl

theorem read_magnitude_whole {whole : List Char} (wholePart : WholePart whole)
    {rest : List Char} (stops : startsWithDigit rest = false) (negative : Bool) (offset : Nat) :
    ∃ significand lost after, readMagnitude negative ⟨offset, whole ++ rest⟩ =
      readTail negative significand lost ⟨after, rest⟩ := by
  rcases whole_part_cases wholePart with rfl | ⟨c, cs, rfl, digit, other, all⟩
  · exact ⟨0, 0, offset + 1, read_magnitude_zero stops negative offset⟩
  · rw [read_magnitude_run digit other]
    obtain ⟨significand, fitting, lost, after, taken, left⟩ := spare_after_fitting all stops 0 offset
    refine ⟨significand, lost, after, ?_⟩
    simp only [taken, left]

theorem scaled_stays {negative : Bool} {significand : Nat} {exponent : Int} {cursor after : Cursor}
    {n : Number} (read : scaled negative significand exponent cursor = .ok (n, after)) :
    after = cursor := by
  unfold scaled at read
  split at read
  · exact (Prod.mk.inj (Except.ok.inj read)).2.symm
  · contradiction

/-- Either all digits are taken, or the rest of them is left after the one that grew too large. -/
theorem exponent_digits_run {run : List Char} (all : ∀ c ∈ run, isDigit c = true)
    {rest : List Char} (stops : startsWithDigit rest = false) (value offset : Nat) :
    (∃ total after, exponentDigits value offset (run ++ rest) = (some total, ⟨after, rest⟩)) ∨
      ∃ after left, exponentDigits value offset (run ++ rest) = (none, ⟨after, left ++ rest⟩) ∧
        ∀ c ∈ left, isDigit c = true := by
  induction run generalizing value offset with
  | nil =>
      refine Or.inl ⟨value, offset, ?_⟩
      cases rest with
      | nil => rfl
      | cons c rest =>
          have unknown : Text.decimalDigit? c = none :=
            Option.isNone_iff_eq_none.mp (Option.isSome_eq_false_iff.mp stops)
          rw [List.nil_append, exponentDigits, unknown]
  | cons c cs ih =>
      obtain ⟨first, later⟩ := List.forall_mem_cons.mp all
      obtain ⟨digit, known⟩ := Option.isSome_iff_exists.mp first
      rw [List.cons_append, exponentDigits, known]
      simp only
      split_ifs
      · exact ih later _ _
      · exact Or.inr ⟨offset + 1, cs, rfl, later⟩

theorem ne_of_digit {c mark : Char} (digit : isDigit c = true) (other : isDigit mark = false) :
    c ≠ mark := by
  rintro rfl
  rw [digit] at other
  contradiction

theorem digit_starts_no_other {c : Char} (digit : isDigit c = true) :
    c ≠ 'n' ∧ c ≠ 't' ∧ c ≠ 'f' ∧ c ≠ '"' ∧ c ≠ '-' :=
  ⟨ne_of_digit digit rfl, ne_of_digit digit rfl, ne_of_digit digit rfl, ne_of_digit digit rfl,
    ne_of_digit digit rfl⟩

/-- Whatever sign stands before the digits of an exponent, they are read from their first one on. -/
theorem read_exponent_run {sign digits : List Char}
    (signed : sign = [] ∨ sign = ['+'] ∨ sign = ['-']) (run : DigitRun digits) (negative : Bool)
    (significand : Nat) (start : Int) (offset : Nat) (tail : List Char) :
    ∃ down before,
      (∀ value after, exponentDigits 0 before (digits ++ tail) = (some value, after) →
        readExponent negative significand start ⟨offset, sign ++ (digits ++ tail)⟩ =
          scaled negative significand (if down then start - value else start + value) after) ∧
      ∀ after, exponentDigits 0 before (digits ++ tail) = (none, after) →
        readExponent negative significand start ⟨offset, sign ++ (digits ++ tail)⟩ =
          if significand ≠ 0 ∧ down = false then .error (after.refuse .numberOutOfRange)
          else .ok (Json.signed negative 0, (spareDigits 0 after.offset after.rest).2) := by
  obtain ⟨present, all⟩ := run
  cases digits with
  | nil => exact absurd rfl present
  | cons c cs =>
      have digit := all c List.mem_cons_self
      have noPlus : c ≠ '+' := ne_of_digit digit rfl
      have noMinus : c ≠ '-' := ne_of_digit digit rfl
      rcases signed with rfl | rfl | rfl
      · refine ⟨false, offset, ?_, ?_⟩
        all_goals intros; simp_all [readExponent]
      · refine ⟨false, offset + 1, ?_, ?_⟩
        all_goals intros; simp_all [readExponent]
      · refine ⟨true, offset + 1, ?_, ?_⟩
        all_goals intros; simp_all [readExponent]

theorem read_exponent_stops {sign digits : List Char}
    (signed : sign = [] ∨ sign = ['+'] ∨ sign = ['-']) (run : DigitRun digits)
    {tail : List Char} (ends : Ends tail) {negative : Bool} {significand : Nat} {start : Int}
    {offset : Nat} {n : Number} {cursor : Cursor}
    (read : readExponent negative significand start ⟨offset, sign ++ (digits ++ tail)⟩ =
      .ok (n, cursor)) : cursor.rest = tail := by
  have stops := (ends_number ends).1
  obtain ⟨down, before, reads, tooLarge⟩ :=
    read_exponent_run signed run negative significand start offset tail
  rcases exponent_digits_run run.2 stops 0 before with
    ⟨total, after, taken⟩ | ⟨after, left, taken, leftDigits⟩
  · rw [reads _ _ taken] at read
    rw [scaled_stays read]
  · rw [tooLarge _ taken, spare_digits_run leftDigits stops] at read
    split_ifs at read
    rw [← (Prod.mk.inj (Except.ok.inj read)).2]

theorem read_scaled_stops {exponent : List Char} (exponentPart : ExponentPart exponent)
    {tail : List Char} (ends : Ends tail) {negative : Bool} {significand : Nat} {start : Int}
    {offset : Nat} {n : Number} {cursor : Cursor}
    (read : readScaled negative significand start ⟨offset, exponent ++ tail⟩ = .ok (n, cursor)) :
    cursor.rest = tail := by
  cases exponentPart with
  | none =>
      obtain ⟨_, _, noLower, noUpper⟩ := ends_number ends
      unfold readScaled at read
      split at read
      · rename_i mark
        exact absurd (congrArg List.head? mark) noLower
      · rename_i mark
        exact absurd (congrArg List.head? mark) noUpper
      · rw [scaled_stays read]
        rfl
  | @some mark sign digits marked signed run =>
      rw [List.cons_append, List.append_assoc] at read
      rcases marked with rfl | rfl
      · exact read_exponent_stops signed run ends read
      · exact read_exponent_stops signed run ends read

/-- Neither a point nor the mark of an exponent is a digit. -/
theorem exponent_part_stops {exponent : List Char} (exponentPart : ExponentPart exponent)
    {tail : List Char} (ends : Ends tail) : startsWithDigit (exponent ++ tail) = false := by
  cases exponentPart with
  | none => exact (ends_number ends).1
  | some marked signed run =>
      rcases marked with rfl | rfl
      · rfl
      · rfl

theorem fraction_part_stops {fraction exponent : List Char} (fractionPart : FractionPart fraction)
    (exponentPart : ExponentPart exponent) {tail : List Char} (ends : Ends tail) :
    startsWithDigit (fraction ++ (exponent ++ tail)) = false := by
  cases fractionPart with
  | none => exact exponent_part_stops exponentPart ends
  | some run => rfl

theorem read_fraction_stops {digits exponent : List Char} (run : DigitRun digits)
    (exponentPart : ExponentPart exponent) {tail : List Char} (ends : Ends tail) {negative : Bool}
    {significand lost offset : Nat} {n : Number} {cursor : Cursor}
    (read : readFraction negative significand lost ⟨offset, digits ++ (exponent ++ tail)⟩ =
      .ok (n, cursor)) : cursor.rest = tail := by
  have stops := exponent_part_stops exponentPart ends
  obtain ⟨longer, fitting, spare, after, taken, left⟩ :=
    spare_after_fitting run.2 stops significand offset
  rw [readFraction, if_pos (starts_with_digit_append run _)] at read
  simp only [taken, left] at read
  exact read_scaled_stops exponentPart ends read

theorem read_tail_stops {fraction exponent : List Char} (fractionPart : FractionPart fraction)
    (exponentPart : ExponentPart exponent) {tail : List Char} (ends : Ends tail) {negative : Bool}
    {significand lost offset : Nat} {n : Number} {cursor : Cursor}
    (read : readTail negative significand lost ⟨offset, fraction ++ (exponent ++ tail)⟩ =
      .ok (n, cursor)) : cursor.rest = tail := by
  cases fractionPart with
  | some run => exact read_fraction_stops run exponentPart ends read
  | none =>
      cases exponentPart with
      | none =>
          rw [List.nil_append, List.nil_append, read_tail_at_end ends] at read
          split_ifs at read
          · rw [← (Prod.mk.inj (Except.ok.inj read)).2]
          · rw [scaled_stays read]
      | some marked signed run =>
          apply read_scaled_stops (.some marked signed run) ends
          rcases marked with rfl | rfl
          · exact read
          · exact read

/-- A number that is read is left exactly where it ends. -/
theorem read_magnitude_stops {text : List Char} (magnitude : MagnitudeText text)
    {tail : List Char} (ends : Ends tail) {negative : Bool} {offset : Nat} {n : Number}
    {cursor : Cursor} (read : readMagnitude negative ⟨offset, text ++ tail⟩ = .ok (n, cursor)) :
    cursor.rest = tail := by
  obtain ⟨wholePart, fractionPart, exponentPart⟩ := magnitude
  have stops := fraction_part_stops fractionPart exponentPart ends
  rw [List.append_assoc, List.append_assoc] at read
  obtain ⟨significand, lost, after, reads⟩ :=
    read_magnitude_whole wholePart stops negative offset
  rw [reads] at read
  exact read_tail_stops fractionPart exponentPart ends read

theorem pass_exponent_run {sign digits : List Char}
    (signed : sign = [] ∨ sign = ['+'] ∨ sign = ['-']) (run : DigitRun digits)
    {tail : List Char} (ends : Ends tail) (offset : Nat) :
    ∃ after, passExponent ⟨offset, sign ++ (digits ++ tail)⟩ = .ok ⟨after, tail⟩ := by
  have starts := starts_with_digit_append run tail
  have spare := fun before => spare_digits_run run.2 (ends_number ends).1 0 before
  rcases signed with rfl | rfl | rfl
  · obtain ⟨present, all⟩ := run
    cases digits with
    | nil => exact absurd rfl present
    | cons c cs =>
        have noPlus : c ≠ '+' := ne_of_digit (all c List.mem_cons_self) rfl
        have noMinus : c ≠ '-' := ne_of_digit (all c List.mem_cons_self) rfl
        refine ⟨offset + (c :: cs).length, ?_⟩
        rw [List.cons_append] at starts
        simp only [List.cons_append] at spare
        simp [passExponent, noPlus, noMinus, starts, spare]
  · refine ⟨offset + 1 + digits.length, ?_⟩
    simp [passExponent, starts, spare]
  · refine ⟨offset + 1 + digits.length, ?_⟩
    simp [passExponent, starts, spare]

theorem pass_scale_part {exponent : List Char} (exponentPart : ExponentPart exponent)
    {tail : List Char} (ends : Ends tail) (offset : Nat) :
    ∃ after, passScale ⟨offset, exponent ++ tail⟩ = .ok ⟨after, tail⟩ := by
  cases exponentPart with
  | none =>
      obtain ⟨_, _, noLower, noUpper⟩ := ends_number ends
      refine ⟨offset, ?_⟩
      unfold passScale
      split
      · rename_i mark
        exact absurd (congrArg List.head? mark) noLower
      · rename_i mark
        exact absurd (congrArg List.head? mark) noUpper
      · rfl
  | @some mark sign digits marked signed run =>
      rw [List.cons_append, List.append_assoc]
      rcases marked with rfl | rfl
      · exact pass_exponent_run signed run ends (offset + 1)
      · exact pass_exponent_run signed run ends (offset + 1)

theorem pass_magnitude_point {whole : List Char} (wholePart : WholePart whole) {rest : List Char}
    (starts : startsWithDigit rest = true) (offset : Nat) :
    ∃ before, passMagnitude ⟨offset, whole ++ '.' :: rest⟩ =
      passScale (spareDigits 0 before rest).2 := by
  have stops : startsWithDigit ('.' :: rest) = false := rfl
  rcases whole_part_cases wholePart with rfl | ⟨c, cs, rfl, digit, other, all⟩
  · refine ⟨offset + 2, ?_⟩
    have zero : isDigit '0' = true := rfl
    simp [passMagnitude, starts, stops, zero]
  · have spare := spare_digits_run all stops 0 offset
    refine ⟨offset + (c :: cs).length + 1, ?_⟩
    rw [List.cons_append] at spare ⊢
    simp [passMagnitude, digit, other, spare, starts]

theorem pass_magnitude_no_point {whole : List Char} (wholePart : WholePart whole)
    {rest : List Char} (stops : startsWithDigit rest = false) (noPoint : rest.head? ≠ some '.')
    (offset : Nat) :
    ∃ before, passMagnitude ⟨offset, whole ++ rest⟩ = passScale ⟨before, rest⟩ := by
  have other : ∀ more, rest ≠ '.' :: more := by
    rintro more rfl
    exact noPoint rfl
  rcases whole_part_cases wholePart with rfl | ⟨c, cs, rfl, digit, notZero, all⟩
  · refine ⟨offset + 1, ?_⟩
    have zero : isDigit '0' = true := rfl
    simp [passMagnitude, stops, zero]
  · have spare := spare_digits_run all stops 0 offset
    refine ⟨offset + (c :: cs).length, ?_⟩
    rw [List.cons_append] at spare ⊢
    simp [passMagnitude, digit, notZero, spare]

theorem pass_magnitude {text : List Char} (magnitude : MagnitudeText text) {tail : List Char}
    (ends : Ends tail) (offset : Nat) :
    ∃ after, passMagnitude ⟨offset, text ++ tail⟩ = .ok ⟨after, tail⟩ := by
  obtain @⟨whole, fraction, exponent, wholePart, fractionPart, exponentPart⟩ := magnitude
  rw [List.append_assoc, List.append_assoc]
  have stops := exponent_part_stops exponentPart ends
  cases fractionPart with
  | none =>
      have noPoint : (exponent ++ tail).head? ≠ some '.' := by
        cases exponentPart with
        | none => exact (ends_number ends).2.1
        | some marked signed run => rcases marked with rfl | rfl <;> simp
      obtain ⟨before, passes⟩ := pass_magnitude_no_point wholePart stops noPoint offset
      rw [List.nil_append, passes]
      exact pass_scale_part exponentPart ends before
  | @some digits run =>
      obtain ⟨before, passes⟩ :=
        pass_magnitude_point wholePart (starts_with_digit_append run (exponent ++ tail)) offset
      rw [List.cons_append, passes, spare_digits_run run.2 stops]
      exact pass_scale_part exponentPart ends _

/-- The digits that are written for a number are a plain integer. -/
theorem integer_text_decimal (value : Nat) : IntegerText value (Text.decimal value) := by
  have numeral := Text.decimal_numeral value
  refine ⟨⟨⟨numeral.1, ?_⟩, ?_⟩, numeral⟩
  · intro c member
    have digit : c.isDigit = true := Nat.isDigit_of_mem_toDigits (by decide) (by decide) member
    rw [isDigit, Text.decimal_digit_of_is_digit digit]
    rfl
  · intro leadingZero
    cases value with
    | zero => rfl
    | succ value =>
        exact absurd leadingZero (Text.decimal_starts_with_digit_above_zero (Nat.succ_pos value))

end Retirement.Json
