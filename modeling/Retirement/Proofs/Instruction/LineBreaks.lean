import Mathlib.Data.List.Basic
import Retirement.Instruction.Token

/-!
Scanning line by line. A line feed ends a word as well as a comment, and behind it the scanner has
forgotten everything but its offset; and an offset does no more than move the spans. So the scan of a
text with a line feed in it is the scan of what stands before, followed by the scan of what stands
behind at its place.
-/

namespace Retirement

def Span.shift (distance : Nat) (span : Span) : Span :=
  ⟨distance + span.start, distance + span.stop⟩

namespace Instruction

open Text (byteLength)

def Token.shift (distance : Nat) (token : Token) : Token :=
  { token with span := token.span.shift distance }

def BadCharacter.shift (distance : Nat) (bad : BadCharacter) : BadCharacter :=
  { bad with span := bad.span.shift distance }

def Piece.shift (distance : Nat) : Piece → Piece
  | token t => .token (t.shift distance)
  | bad b => .bad (b.shift distance)

namespace Mode

def shift (distance : Nat) : Mode → Mode
  | word start letters => word (distance + start) letters
  | mode => mode

/-- What the scanner gives out when it comes to a character. -/
def emitted (offset : Nat) (c : Char) : Mode → List Piece
  | comment => []
  | mode => if isWordChar c then [] else mode.finish offset ++ single offset c

/-- What the scanner stands inside of behind a character. -/
def next (offset : Nat) (c : Char) : Mode → Mode
  | comment => if c = '\n' then between else comment
  | mode => if isWordChar c then mode.extend offset c else if c = '#' then comment else between

end Mode

/-- One step: pieces are given out, and the rest is scanned from another mode. -/
theorem scan_from_cons (mode : Mode) (offset : Nat) (c : Char) (cs : List Char) :
    scanFrom mode offset (c :: cs) =
      mode.emitted offset c ++ scanFrom (mode.next offset c) (offset + c.utf8Size) cs := by
  cases mode with
  | comment => exact scanFrom.eq_2 offset c cs
  | between | word =>
      rw [scanFrom.eq_3 _ _ _ _ Mode.noConfusion]
      simp only [Mode.emitted, Mode.next]
      split_ifs <;> simp

theorem scan_from_line_feed (mode : Mode) (offset : Nat) (cs : List Char) :
    scanFrom mode offset ('\n' :: cs) =
      mode.finish offset ++ scanFrom .between (offset + 1) cs := by
  cases mode <;> rfl

theorem scan_from_line (mode : Mode) (offset : Nat) (line rest : List Char) :
    scanFrom mode offset (line ++ '\n' :: rest) =
      scanFrom mode offset line ++ scanFrom .between (offset + byteLength line + 1) rest := by
  induction line generalizing mode offset with
  | nil => exact scan_from_line_feed mode offset rest
  | cons c cs ih =>
      rw [List.cons_append, scan_from_cons, scan_from_cons, ih, Text.byteLength_cons,
        List.append_assoc, Nat.add_assoc offset]

section Shift

variable (distance offset : Nat) (mode : Mode) (c : Char)

theorem finish_shift :
    (mode.shift distance).finish (distance + offset) =
      (mode.finish offset).map (Piece.shift distance) := by
  cases mode <;> rfl

theorem single_shift :
    single (distance + offset) c = (single offset c).map (Piece.shift distance) := by
  simp only [single, apply_ite (List.map (Piece.shift distance)), List.map_cons, List.map_nil,
    Piece.shift, Token.shift, BadCharacter.shift, Span.shift, Nat.add_assoc]

theorem emitted_shift :
    (mode.shift distance).emitted (distance + offset) c =
      (mode.emitted offset c).map (Piece.shift distance) := by
  cases mode with
  | comment => rfl
  | between | word =>
      simp only [Mode.shift, Mode.emitted, single_shift, apply_ite (List.map (Piece.shift distance)),
        List.map_append, List.map_nil, ← finish_shift]

theorem next_shift :
    (mode.shift distance).next (distance + offset) c = (mode.next offset c).shift distance := by
  cases mode with
  | comment => simp only [Mode.shift, Mode.next]; split_ifs <;> rfl
  | between | word => simp only [Mode.shift, Mode.next, Mode.extend]; split_ifs <;> rfl

/-- From a later offset the scanner finds the same pieces, only later. -/
theorem scan_from_shift (cs : List Char) :
    scanFrom (mode.shift distance) (distance + offset) cs =
      (scanFrom mode offset cs).map (Piece.shift distance) := by
  induction cs generalizing mode offset with
  | nil =>
      rw [scanFrom, scanFrom]
      exact finish_shift distance offset mode
  | cons c cs ih =>
      rw [scan_from_cons, scan_from_cons, emitted_shift, next_shift, Nat.add_assoc, ih,
        List.map_append]

end Shift

theorem shifted_pieces {α : Type} {distance : Nat} {part : Piece → Option α} {move : α → α}
    (moves : ∀ piece : Piece, part (piece.shift distance) = (part piece).map move)
    (pieces : List Piece) :
    (pieces.map (Piece.shift distance)).filterMap part = (pieces.filterMap part).map move := by
  rw [List.filterMap_map, List.map_filterMap]
  apply List.filterMap_congr
  intro piece _
  exact moves piece

theorem token_of_shifted (distance : Nat) (piece : Piece) :
    (piece.shift distance).token? = piece.token?.map (Token.shift distance) := by
  cases piece <;> rfl

theorem bad_of_shifted (distance : Nat) (piece : Piece) :
    (piece.shift distance).bad? = piece.bad?.map (BadCharacter.shift distance) := by
  cases piece <;> rfl

theorem pieces_of_lines (line rest : List Char) :
    scanFrom .between 0 (line ++ '\n' :: rest) =
      scanFrom .between 0 line ++
        (scanFrom .between 0 rest).map (Piece.shift (byteLength line + 1)) := by
  rw [scan_from_line, ← scan_from_shift, Nat.zero_add]
  rfl

/-- Line breaks separate. Whatever stands before and behind a line feed, the two are scanned as if each
stood alone: the tokens come one after the other, and so do the bad characters and what is said of
them, and those behind are found further on by the bytes of the line and one for the line feed. -/
theorem line_breaks_separate (line rest : List Char) :
    (scan (line ++ '\n' :: rest)).tokens =
        (scan line).tokens ++ (scan rest).tokens.map (Token.shift (byteLength line + 1)) ∧
      (scan (line ++ '\n' :: rest)).bad =
        (scan line).bad ++ (scan rest).bad.map (BadCharacter.shift (byteLength line + 1)) ∧
      (scan (line ++ '\n' :: rest)).bad.map BadCharacter.message =
        (scan line).bad.map BadCharacter.message ++ (scan rest).bad.map BadCharacter.message := by
  have tokens : (scan (line ++ '\n' :: rest)).tokens =
      (scan line).tokens ++ (scan rest).tokens.map (Token.shift (byteLength line + 1)) := by
    simp only [scan, pieces_of_lines, List.filterMap_append,
      shifted_pieces (token_of_shifted (byteLength line + 1))]
  have bad : (scan (line ++ '\n' :: rest)).bad =
      (scan line).bad ++ (scan rest).bad.map (BadCharacter.shift (byteLength line + 1)) := by
    simp only [scan, pieces_of_lines, List.filterMap_append,
      shifted_pieces (bad_of_shifted (byteLength line + 1))]
  refine ⟨tokens, bad, ?_⟩
  rw [bad, List.map_append, List.map_map]
  rfl

example :
    scan "a0#(é,\n,é".toList =
      ⟨[⟨.word "a0", ⟨0, 2⟩⟩, ⟨.comma, ⟨8, 9⟩⟩], [⟨'é', ⟨9, 11⟩⟩]⟩ := by decide

end Instruction

end Retirement
