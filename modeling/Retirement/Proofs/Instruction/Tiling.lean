import Mathlib.Data.List.TakeWhile
import Retirement.Proofs.Instruction.Scanning

/-!
Tilings of a text: its pieces from left to right, each after the gap before it, told without a
scanner. A tiling fixes its pieces, because each of its steps is one that the scanner takes; and the
scanner tiles every text, since it never stops inside a word.
-/

namespace Retirement.Instruction

open Text (byteLength)

def Lexeme.StandsAfter (before : List Char) : Lexeme → Prop
  | word _ => OutsideWord before.getLast?
  | _ => True

namespace Piece

def span : Piece → Span
  | token t => t.span
  | bad b => b.span

/-- A token is written out in full at its place, and a word is a maximal run; a bad character is a
single stray one. -/
def Fits (before inner after : List Char) : Piece → Prop
  | token t =>
      inner = t.lexeme.letters ∧ t.lexeme.StandsAfter before ∧ t.lexeme.StandsBefore after
  | bad b => inner = [b.char] ∧ IsStray b.char

end Piece

/-- The pieces of a text that follows `before`, from left to right. -/
inductive Tiles : List Char → List Char → List Piece → Prop
  | done {before gap : List Char} : Trivia gap [] → Tiles before gap []
  | piece {before gap inner after : List Char} {piece : Piece} {pieces : List Piece} :
      Trivia gap (inner ++ after) → piece.Fits (before ++ gap) inner after →
      piece.span = ⟨byteLength (before ++ gap), byteLength (before ++ gap ++ inner)⟩ →
      Tiles (before ++ gap ++ inner) after pieces →
      Tiles before (gap ++ (inner ++ after)) (piece :: pieces)

theorem scan_piece {piece : Piece} {before inner after : List Char}
    (fits : piece.Fits before inner after) {offset : Nat}
    (place : piece.span = ⟨offset, offset + byteLength inner⟩) :
    scanFrom .between offset (inner ++ after) =
      piece :: scanFrom .between (offset + byteLength inner) after := by
  cases piece with
  | token t =>
      obtain ⟨rfl, _, stands⟩ := fits
      have span : t.span = ⟨offset, offset + byteLength t.lexeme.letters⟩ := place
      rw [scan_lexeme stands, ← span]
  | bad b =>
      obtain ⟨rfl, stray⟩ := fits
      have span : b.span = ⟨offset, offset + b.char.utf8Size⟩ := place
      rw [List.singleton_append, scan_stray stray, ← span]
      rfl

theorem Tiles.eq_scan {before text : List Char} {pieces : List Piece}
    (tiles : Tiles before text pieces) :
    pieces = scanFrom .between (byteLength before) text := by
  induction tiles with
  | @done before gap passed =>
      have scanned := scan_trivia passed (byteLength before)
      rw [List.append_nil] at scanned
      rw [scanned]
      rfl
  | @piece before gap inner after piece pieces passed fits place _ ih =>
      rw [Text.byteLength_append _ inner] at place ih
      rw [scan_trivia passed, ← Text.byteLength_append, scan_piece fits place, ← ih]

theorem drop_while_stops {test : Char → Bool} {text : List Char} {c : Char}
    (first : (text.dropWhile test).head? = some c) : test c = false := by
  have stopped := List.head?_dropWhile_not test text
  rw [first] at stopped
  exact stopped

/-- A number sign opens a comment that takes the rest of its line. -/
theorem comment_line (cs : List Char) :
    ∃ body line, cs = body ++ line ∧ '\n' ∉ body ∧ EndsLine line.head? := by
  refine ⟨cs.takeWhile (· != '\n'), cs.dropWhile (· != '\n'),
    List.takeWhile_append_dropWhile.symm, ?_, ?_⟩
  · intro member
    have passed := List.mem_takeWhile_imp member
    contradiction
  · intro c first
    simpa using drop_while_stops first

/-- Every text begins with trivia, up to a character that is neither blank nor number sign. -/
theorem trivia_then_solid (text : List Char) :
    ∃ gap rest, text = gap ++ rest ∧ Trivia gap rest ∧
      ∀ c, rest.head? = some c → isLayout c = false ∧ c ≠ '#' := by
  induction length : text.length using Nat.strongRecOn generalizing text with
  | ind size ih =>
      cases text with
      | nil => exact ⟨[], [], rfl, .nothing, by simp⟩
      | cons c cs =>
          have shorter : cs.length < size := by simp [← length]
          by_cases layout : isLayout c = true
          · obtain ⟨gap, rest, rfl, passed, solid⟩ := ih cs.length shorter cs rfl
            exact ⟨c :: gap, rest, rfl, .blank layout passed, solid⟩
          by_cases opens : c = '#'
          · obtain ⟨body, line, split, oneLine, ends⟩ := comment_line cs
            have lineShorter : line.length < size := by
              rw [split, List.length_append] at shorter
              omega
            obtain ⟨gap, rest, same, passed, solid⟩ := ih line.length lineShorter line rfl
            rw [same] at ends
            refine ⟨'#' :: body ++ gap, rest, ?_, .comment oneLine ends passed, solid⟩
            rw [opens, split, same, List.cons_append, List.cons_append, List.append_assoc]
          · refine ⟨[], c :: cs, rfl, .nothing, ?_⟩
            intro d first
            cases first
            exact ⟨Bool.eq_false_iff.mpr layout, opens⟩

def WordBreak (left right : List Char) : Prop :=
  OutsideWord left.getLast? ∨ OutsideWord right.head?

theorem word_break_after {c : Char} (outside : isWordChar c = false) (before right : List Char) :
    WordBreak (before ++ [c]) right := by
  apply Or.inl
  intro d last
  rw [List.getLast?_concat] at last
  exact Option.some.inj last ▸ outside

theorem word_break_past_trivia {gap after : List Char} (passed : Trivia gap after)
    {before : List Char} (start : WordBreak before (gap ++ after)) :
    WordBreak (before ++ gap) after := by
  induction passed generalizing before with
  | nothing =>
      rw [List.append_nil]
      exact start
  | @blank c cs after layout _ ih =>
      have border := ih (word_break_after (layout_is_no_word_char layout).1 before (cs ++ after))
      rw [List.append_assoc, List.singleton_append] at border
      exact border
  | @comment body cs after _ ends _ ih =>
      have outside : OutsideWord (cs ++ after).head? := by
        intro c first
        rw [ends c first]
        decide
      have border := @ih (before ++ '#' :: body) (Or.inr outside)
      rw [List.append_assoc] at border
      exact border

theorem Tiles.before_scan {before gap inner after : List Char} (piece : Piece)
    (passed : Trivia gap (inner ++ after)) (fits : piece.Fits (before ++ gap) inner after)
    (place : piece.span = ⟨byteLength (before ++ gap), byteLength (before ++ gap ++ inner)⟩)
    (later : Tiles (before ++ gap ++ inner) after
      (scanFrom .between (byteLength (before ++ gap ++ inner)) after)) :
    Tiles before (gap ++ (inner ++ after))
      (scanFrom .between (byteLength before) (gap ++ (inner ++ after))) := by
  have tiles := Tiles.piece passed fits place later
  rw [← tiles.eq_scan]
  exact tiles

theorem maximal_word {c : Char} (inside : isWordChar c = true) (cs : List Char) :
    ∃ word after, c :: cs = (Lexeme.word word).letters ++ after ∧
      (Lexeme.word word).StandsBefore after := by
  have letters : (String.ofList ((c :: cs).takeWhile isWordChar)).toList =
      (c :: cs).takeWhile isWordChar := String.toList_ofList
  refine ⟨String.ofList ((c :: cs).takeWhile isWordChar), (c :: cs).dropWhile isWordChar, ?_, ?_⟩
  · rw [Lexeme.letters, letters, List.takeWhile_append_dropWhile]
  · rw [Lexeme.StandsBefore, letters]
    refine ⟨?_, ?_, ?_⟩
    · simp [inside]
    · intro d member
      exact List.mem_takeWhile_imp member
    · intro d first
      exact drop_while_stops first

theorem mark_lexeme {c : Char} (mark : c ∈ [',', '(', ')']) :
    isWordChar c = false ∧ ∃ lexeme : Lexeme, lexeme.letters = [c] ∧
      (∀ before, lexeme.StandsAfter before) ∧ ∀ after, lexeme.StandsBefore after := by
  simp only [List.mem_cons, List.not_mem_nil, or_false] at mark
  rcases mark with rfl | rfl | rfl
  · exact ⟨by decide, .comma, rfl, fun _ => trivial, fun _ => trivial⟩
  · exact ⟨by decide, .leftParen, rfl, fun _ => trivial, fun _ => trivial⟩
  · exact ⟨by decide, .rightParen, rfl, fun _ => trivial, fun _ => trivial⟩

/-- The scanner tiles any text that begins at a word break. A word that it finds next begins there
or after a gap, and it leaves the next border at another break. -/
theorem scan_tiles {before text : List Char} (start : WordBreak before text) :
    Tiles before text (scanFrom .between (byteLength before) text) := by
  induction length : text.length using Nat.strongRecOn generalizing before text with
  | ind size ih =>
      obtain ⟨gap, rest, rfl, passed, solid⟩ := trivia_then_solid text
      have border := word_break_past_trivia passed start
      cases rest with
      | nil =>
          rw [List.append_nil]
          have tiles : Tiles before gap [] := .done passed
          rw [← tiles.eq_scan]
          exact tiles
      | cons c cs =>
          obtain ⟨noLayout, noComment⟩ := solid c rfl
          have shorter : cs.length < size := by
            rw [← length, List.length_append, List.length_cons]
            omega
          by_cases inside : isWordChar c = true
          · obtain ⟨word, after, split, stands⟩ := maximal_word inside cs
            have begins : (Lexeme.word word).StandsAfter (before ++ gap) := by
              apply border.resolve_right
              intro outside
              have impossible := outside c rfl
              rw [inside] at impossible
              contradiction
            have afterShorter : after.length < size := by
              have filled := List.length_pos_iff.mpr stands.1
              have lengths := congrArg List.length split
              rw [← length, List.length_append, lengths, List.length_append]
              change _ < _ + (word.toList.length + _)
              omega
            rw [split] at passed ⊢
            let place : Span :=
              ⟨byteLength (before ++ gap), byteLength (before ++ gap ++ word.toList)⟩
            exact Tiles.before_scan (.token ⟨.word word, place⟩) passed
              ⟨rfl, begins, stands⟩ rfl (ih after.length afterShorter (Or.inr stands.2.2) rfl)
          have outside : isWordChar c = false := Bool.eq_false_iff.mpr inside
          have nextBorder := word_break_after outside (before ++ gap) cs
          let place : Span := ⟨byteLength (before ++ gap), byteLength (before ++ gap ++ [c])⟩
          have later := ih cs.length shorter nextBorder rfl
          by_cases mark : c ∈ [',', '(', ')']
          · obtain ⟨_, lexeme, letters, begins, stands⟩ := mark_lexeme mark
            exact Tiles.before_scan (.token ⟨lexeme, place⟩) passed
              ⟨letters.symm, begins _, stands _⟩ rfl later
          · have stray : IsStray c := by
              refine ⟨outside, noLayout, ?_⟩
              simp only [List.mem_cons, List.not_mem_nil, or_false, not_or] at mark ⊢
              exact ⟨mark.1, mark.2.1, mark.2.2, noComment⟩
            exact Tiles.before_scan (.bad ⟨c, place⟩) passed ⟨rfl, stray⟩ rfl later

end Retirement.Instruction
