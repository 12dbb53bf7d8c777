import Mathlib.Data.List.Basic
import Retirement.Json.Word
import Retirement.Proofs.Json.Layout

/-!
Reading strings. Whatever way a string is spelled, reading gives the string back; a string that
nobody asked for is passed over in any case. Where reading succeeds at all it stops behind the first
quote that no backslash stands before.
-/

namespace Retirement.Json

theorem simple_escape_of_short {mark c : Char} (escape : (mark, c) ∈ shortEscapes) :
    simpleEscape? mark = some c ∧ mark ≠ 'u' := by
  have all : ∀ entry ∈ shortEscapes, simpleEscape? entry.1 = some entry.2 ∧ entry.1 ≠ 'u' := by
    decide
  exact all (mark, c) escape

theorem char_is_no_surrogate (c : Char) :
    isLeading c.toNat = false ∧ isTrailing c.toNat = false := by
  have scalar : c.toNat < 0xd800 ∨ 0xdfff < c.toNat ∧ c.toNat < 0x110000 := c.valid
  simp only [isLeading, isTrailing, decide_eq_false_iff_not]
  omega

theorem char_lt_limit (c : Char) : c.toNat < 0x110000 := by
  have scalar : c.toNat < 0xd800 ∨ 0xdfff < c.toNat ∧ c.toNat < 0x110000 := c.valid
  omega

theorem string_from_plain {c : Char} (plain : IsPlain c) (letters : List Char) (offset : Nat)
    (rest : List Char) :
    stringFrom letters offset (c :: rest) =
      stringFrom (c :: letters) (offset + c.utf8Size) rest := by
  obtain ⟨printable, noQuote, noEscape⟩ := plain
  rw [stringFrom]
  · exact if_neg (by omega)
  · exact noQuote
  · exact fun same => absurd same noEscape
  · exact fun _ _ _ _ _ same => absurd same noEscape
  · exact fun _ _ same => absurd same noEscape

theorem string_from_short {mark c : Char} (escape : (mark, c) ∈ shortEscapes)
    (letters : List Char) (offset : Nat) (rest : List Char) :
    stringFrom letters offset ('\\' :: mark :: rest) =
      stringFrom (c :: letters) (offset + 2) rest := by
  obtain ⟨known, notCode⟩ := simple_escape_of_short escape
  rw [stringFrom, known]
  exact fun _ _ _ _ _ same => absurd same notCode

theorem string_from_code {c d₁ d₂ d₃ d₄ : Char} (digits : hexQuad? d₁ d₂ d₃ d₄ = some c.toNat)
    (letters : List Char) (offset : Nat) (rest : List Char) :
    stringFrom letters offset ('\\' :: 'u' :: d₁ :: d₂ :: d₃ :: d₄ :: rest) =
      stringFrom (c :: letters) (offset + 6) rest := by
  obtain ⟨notLeading, notTrailing⟩ := char_is_no_surrogate c
  rw [stringFrom, digits]
  simp only [notLeading, notTrailing, Bool.false_eq_true, if_false, Char.ofNat_toNat]

/-- The two surrogates of a character beyond the first plane lead back to it. -/
theorem surrogates_of_char {c : Char} (beyond : 0x10000 ≤ c.toNat) :
    let leading := 0xd800 + (c.toNat - 0x10000) / 0x400
    let trailing := 0xdc00 + (c.toNat - 0x10000) % 0x400
    isLeading leading = true ∧ isTrailing leading = false ∧ isTrailing trailing = true ∧
      surrogatePair leading trailing = c := by
  have limit := char_lt_limit c
  simp only [isLeading, isTrailing, decide_eq_true_eq, decide_eq_false_iff_not, surrogatePair]
  refine ⟨by omega, by omega, by omega, ?_⟩
  have same : (0xd800 + (c.toNat - 0x10000) / 0x400 - 0xd800) * 0x400 +
      (0xdc00 + (c.toNat - 0x10000) % 0x400 - 0xdc00) + 0x10000 = c.toNat := by omega
  rw [same, Char.ofNat_toNat]

theorem string_from_pair {c d₁ d₂ d₃ d₄ e₁ e₂ e₃ e₄ : Char} (beyond : 0x10000 ≤ c.toNat)
    (first : hexQuad? d₁ d₂ d₃ d₄ = some (0xd800 + (c.toNat - 0x10000) / 0x400))
    (second : hexQuad? e₁ e₂ e₃ e₄ = some (0xdc00 + (c.toNat - 0x10000) % 0x400))
    (letters : List Char) (offset : Nat) (rest : List Char) :
    stringFrom letters offset
        ('\\' :: 'u' :: d₁ :: d₂ :: d₃ :: d₄ :: '\\' :: 'u' :: e₁ :: e₂ :: e₃ :: e₄ :: rest) =
      stringFrom (c :: letters) (offset + 12) rest := by
  obtain ⟨leading, notTrailing, trailing, same⟩ := surrogates_of_char beyond
  rw [stringFrom, first]
  simp only [leading, notTrailing, second, trailing, same, Bool.false_eq_true, if_false, if_true]

theorem string_from_spells {letters body : List Char} (spells : Spells letters body)
    (read : List Char) (offset : Nat) (tail : List Char) :
    ∃ after, stringFrom read offset (body ++ '"' :: tail) =
      .ok (String.ofList (read.reverse ++ letters), ⟨after, tail⟩) := by
  induction spells generalizing read offset with
  | nil =>
      rw [List.append_nil]
      exact ⟨offset + 1, rfl⟩
  | @plain c letters body plain rest ih =>
      rw [List.cons_append, string_from_plain plain]
      simpa using ih (c :: read) (offset + c.utf8Size)
  | @short mark c letters body escape rest ih =>
      rw [List.cons_append, List.cons_append, string_from_short escape]
      simpa using ih (c :: read) (offset + 2)
  | @code c _ _ _ _ letters body digits rest ih =>
      simp only [List.cons_append]
      rw [string_from_code digits]
      simpa using ih (c :: read) (offset + 6)
  | @pair c _ _ _ _ _ _ _ _ letters body beyond leading trailing rest ih =>
      simp only [List.cons_append]
      rw [string_from_pair beyond leading trailing]
      simpa using ih (c :: read) (offset + 12)

theorem read_string_spelled {s : String} {body : List Char} (spells : Spells s.toList body)
    (offset : Nat) (tail : List Char) :
    ∃ after, readString ⟨offset, body ++ '"' :: tail⟩ = .ok (s, ⟨after, tail⟩) := by
  obtain ⟨after, read⟩ := string_from_spells spells [] offset tail
  rw [List.reverse_nil, List.nil_append, String.ofList_toList] at read
  exact ⟨after, read⟩

theorem pass_string_plain {c : Char} (plain : IsPlain c) (offset : Nat) (rest : List Char) :
    passString offset (c :: rest) = passString (offset + c.utf8Size) rest := by
  obtain ⟨printable, noQuote, noEscape⟩ := plain
  rw [passString]
  · exact if_neg (by omega)
  · exact noQuote
  · exact fun same => absurd same noEscape
  · exact fun _ _ _ _ _ same => absurd same noEscape
  · exact fun _ _ same => absurd same noEscape

theorem pass_string_quotable {body : List Char} (quotable : Quotable body) (offset : Nat)
    (tail : List Char) : ∃ after, passString offset (body ++ '"' :: tail) = .ok ⟨after, tail⟩ := by
  induction quotable generalizing offset with
  | nil => exact ⟨offset + 1, rfl⟩
  | plain plain rest ih =>
      rw [List.cons_append, pass_string_plain plain]
      exact ih _
  | short escape rest ih =>
      obtain ⟨known, notCode⟩ := simple_escape_of_short escape
      rw [List.cons_append, List.cons_append, passString, known]
      · exact ih _
      · exact fun _ _ _ _ _ same => absurd same notCode
  | code digits rest ih =>
      simp only [List.cons_append]
      rw [passString, digits]
      exact ih _

/-- What stands behind the first quote that no backslash stands before. -/
def afterQuote : List Char → Option (List Char)
  | [] => none
  | '"' :: rest => some rest
  | '\\' :: _ :: rest => afterQuote rest
  | _ :: rest => afterQuote rest

theorem after_quote_other {c : Char} (noQuote : c ≠ '"') (noEscape : c ≠ '\\')
    (rest : List Char) : afterQuote (c :: rest) = afterQuote rest := by
  rw [afterQuote]
  · exact noQuote
  · exact fun _ _ same => absurd same noEscape

theorem hex_digit_is_no_mark {c : Char} {digit : Nat} (known : Text.hexDigit? c = some digit) :
    c ≠ '"' ∧ c ≠ '\\' := by
  constructor
  · rintro rfl
    contradiction
  · rintro rfl
    contradiction

theorem hex_quad_digits {d₁ d₂ d₃ d₄ : Char} {unit : Nat}
    (digits : hexQuad? d₁ d₂ d₃ d₄ = some unit) :
    ∀ d ∈ [d₁, d₂, d₃, d₄], ∃ digit, Text.hexDigit? d = some digit := by
  unfold hexQuad? at digits
  split at digits
  · rename_i p q r s first second third fourth
    simp [first, second, third, fourth]
  · contradiction

theorem after_quote_code {d₁ d₂ d₃ d₄ : Char} {unit : Nat}
    (digits : hexQuad? d₁ d₂ d₃ d₄ = some unit) (rest : List Char) :
    afterQuote ('\\' :: 'u' :: d₁ :: d₂ :: d₃ :: d₄ :: rest) = afterQuote rest := by
  have plain : ∀ d ∈ [d₁, d₂, d₃, d₄], d ≠ '"' ∧ d ≠ '\\' := by
    intro d member
    obtain ⟨digit, known⟩ := hex_quad_digits digits d member
    exact hex_digit_is_no_mark known
  simp only [List.forall_mem_cons] at plain
  obtain ⟨first, second, third, fourth, _⟩ := plain
  rw [afterQuote, after_quote_other first.1 first.2, after_quote_other second.1 second.2,
    after_quote_other third.1 third.2, after_quote_other fourth.1 fourth.2]

theorem after_quote_quotable {body : List Char} (quotable : Quotable body) (tail : List Char) :
    afterQuote (body ++ '"' :: tail) = some tail := by
  induction quotable with
  | nil => rfl
  | plain plain rest ih =>
      rw [List.cons_append, after_quote_other plain.2.1 plain.2.2]
      exact ih
  | short escape rest ih => exact ih
  | code digits rest ih =>
      simp only [List.cons_append]
      rw [after_quote_code digits]
      exact ih

theorem string_from_stops {letters text : List Char} {offset : Nat} {s : String} {cursor : Cursor}
    (read : stringFrom letters offset text = .ok (s, cursor)) :
    afterQuote text = some cursor.rest := by
  fun_induction stringFrom letters offset text with
  | case1 => contradiction
  | case2 letters offset rest =>
      obtain ⟨-, rfl⟩ := Prod.mk.inj (Except.ok.inj read)
      rfl
  | case7 letters offset a b c d unit first _ _ e f g h rest trailing second _ ih =>
      rw [after_quote_code first, after_quote_code second]
      exact ih read
  | case10 letters offset a b c d rest unit digits _ _ ih =>
      rw [after_quote_code digits]
      exact ih read
  | case11 letters offset c rest _ letter _ ih => exact ih read
  | case15 letters offset c rest noQuote notLast _ noEscape _ ih =>
      have notMark : c ≠ '\\' := by
        intro same
        cases rest with
        | nil => exact notLast same rfl
        | cons next rest => exact noEscape next rest same rfl
      rw [after_quote_other noQuote notMark]
      exact ih read
  | _ => contradiction

end Retirement.Json
