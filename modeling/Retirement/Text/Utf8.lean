/-!
Byte lengths of texts. Every offset in this library counts bytes of UTF-8, while texts are walked
character by character, so the length of a run of characters is the link between the two.
-/

namespace Retirement.Text

def byteLength : List Char → Nat
  | [] => 0
  | c :: cs => c.utf8Size + byteLength cs

@[simp] theorem byteLength_nil : byteLength [] = 0 := rfl

@[simp] theorem byteLength_cons (c : Char) (cs : List Char) :
    byteLength (c :: cs) = c.utf8Size + byteLength cs := rfl

@[simp] theorem byteLength_append (left right : List Char) :
    byteLength (left ++ right) = byteLength left + byteLength right := by
  induction left with
  | nil => simp
  | cons c cs ih => simp [ih, Nat.add_assoc]

theorem byteLength_pos {cs : List Char} (filled : cs ≠ []) : 0 < byteLength cs := by
  cases cs with
  | nil => contradiction
  | cons c rest => exact Nat.add_pos_left c.utf8Size_pos _

/-- An offset in bytes cuts a text in one way only. -/
theorem cut_unique {left right before after : List Char} (same : left ++ right = before ++ after)
    (lengths : byteLength left = byteLength before) : left = before ∧ right = after := by
  induction left generalizing before with
  | nil =>
      cases before with
      | nil => exact ⟨rfl, same⟩
      | cons c cs =>
          have positive := byteLength_pos (List.cons_ne_nil c cs)
          exact absurd lengths (Nat.ne_of_lt positive)
  | cons c cs ih =>
      cases before with
      | nil =>
          have positive := byteLength_pos (List.cons_ne_nil c cs)
          exact absurd lengths.symm (Nat.ne_of_lt positive)
      | cons d ds =>
          obtain ⟨rfl, rest⟩ := List.cons.inj same
          obtain ⟨rfl, rfl⟩ := ih rest (Nat.add_left_cancel lengths)
          exact ⟨rfl, rfl⟩

end Retirement.Text
