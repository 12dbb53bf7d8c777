import Retirement.Proofs.Instruction.Partition

/-!
Slices of a text. A span can be sliced out if it is not inverted, ends inside the text and has no
character across either end. The spans of a scan can, and give back the lexeme or the character that
stands there; so can the span of everything between two separators, and a span joined from two others.
-/

namespace Retirement

open Text (byteLength)

/-- The text before an offset in bytes, and the text from there on. There is no such cut past the end
of the text or inside a character. -/
def Text.cutAt? : List Char → Nat → Option (List Char × List Char)
  | [], offset => if offset = 0 then some ([], []) else none
  | c :: cs, offset =>
      if offset = 0 then some ([], c :: cs)
      else if c.utf8Size ≤ offset then
        (cutAt? cs (offset - c.utf8Size)).map fun parts => (c :: parts.1, parts.2)
      else none

theorem Text.cut_at_byte_length (before after : List Char) :
    cutAt? (before ++ after) (byteLength before) = some (before, after) := by
  induction before with
  | nil => cases after <;> rfl
  | cons c cs ih =>
      have positive : byteLength (c :: cs) ≠ 0 := (byteLength_pos (List.cons_ne_nil c cs)).ne'
      have fits : c.utf8Size ≤ byteLength (c :: cs) := Nat.le_add_right _ _
      have shorter : byteLength (c :: cs) - c.utf8Size = byteLength cs :=
        Nat.add_sub_cancel_left _ _
      rw [List.cons_append, cutAt?, if_neg positive, if_pos fits, shorter, ih]
      rfl

theorem Text.parts_of_cut {text before after : List Char} {offset : Nat}
    (cut : cutAt? text offset = some (before, after)) :
    text = before ++ after ∧ offset = byteLength before := by
  induction text generalizing offset before with
  | nil =>
      rw [cutAt?] at cut
      split_ifs at cut with start
      cases cut
      exact ⟨rfl, start⟩
  | cons c cs ih =>
      rw [cutAt?] at cut
      split_ifs at cut with start fits
      · cases cut
        exact ⟨rfl, start⟩
      · rw [Option.map_eq_some_iff] at cut
        obtain ⟨parts, further, same⟩ := cut
        cases same
        obtain ⟨split, length⟩ := ih further
        refine ⟨congrArg (List.cons c) split, ?_⟩
        rw [Text.byteLength_cons, ← length]
        omega

def Text.IsBorder (text : List Char) (offset : Nat) : Prop :=
  ∃ before after, text = before ++ after ∧ offset = byteLength before

/-- Of two beginnings of a text, the one with fewer bytes is a beginning of the other. -/
theorem Text.begins_of_byte_length_le {text before front : List Char} (first : before <+: text)
    (second : front <+: text) (shorter : byteLength before ≤ byteLength front) :
    before <+: front := by
  rcases List.prefix_or_prefix_of_prefix first second with begins | begins
  · exact begins
  · obtain ⟨more, rfl⟩ := begins
    rw [byteLength_append] at shorter
    have nothing : more = [] := by
      by_contra filled
      have positive := byteLength_pos filled
      omega
    have whole : front ++ more = front := by rw [nothing, List.append_nil]
    exact ⟨[], (List.append_nil _).trans whole⟩

theorem Text.IsBorder.le_byte_length {text : List Char} {offset : Nat}
    (border : IsBorder text offset) : offset ≤ byteLength text := by
  obtain ⟨before, after, split, length⟩ := border
  rw [split, length, byteLength_append]
  exact Nat.le_add_right _ _

namespace Span

/-- The characters inside a span; none for a span that cannot be sliced out of the text. -/
def slice? (text : List Char) (span : Span) : Option (List Char) :=
  if span.start ≤ span.stop then
    (Text.cutAt? text span.start).bind fun parts =>
      (Text.cutAt? parts.2 (span.stop - span.start)).map Prod.fst
  else none

/-- The span is not inverted, ends inside the text, and has both ends between characters. -/
structure Within (text : List Char) (span : Span) : Prop where
  ordered : span.start ≤ span.stop
  inside : span.stop ≤ byteLength text
  starts : Text.IsBorder text span.start
  stops : Text.IsBorder text span.stop

theorem slice_eq_some_iff {text inner : List Char} {span : Span} :
    span.slice? text = some inner ↔
      ∃ before after, Instruction.Located text span before inner after := by
  unfold slice?
  constructor
  · intro sliced
    split_ifs at sliced with ordered
    rw [Option.bind_eq_some_iff] at sliced
    obtain ⟨⟨before, rest⟩, first, sliced⟩ := sliced
    rw [Option.map_eq_some_iff] at sliced
    obtain ⟨⟨middle, after⟩, second, rfl⟩ := sliced
    obtain ⟨rfl, start⟩ := Text.parts_of_cut first
    obtain ⟨rfl, width⟩ := Text.parts_of_cut second
    refine ⟨before, after, rfl, start, ?_⟩
    rw [← start, ← width]
    exact (Nat.add_sub_cancel' ordered).symm
  · intro located
    obtain ⟨before, after, located⟩ := located
    have ordered : span.start ≤ span.stop := by
      rw [located.start, located.stop]
      exact Nat.le_add_right _ _
    have width : span.stop - span.start = byteLength inner := by
      rw [located.start, located.stop]
      exact Nat.add_sub_cancel_left _ _
    rw [if_pos ordered, width, located.start, located.splits, Text.cut_at_byte_length,
      Option.bind_some, Text.cut_at_byte_length]
    rfl

theorem slice_isSome_iff {text : List Char} {span : Span} :
    (span.slice? text).isSome = true ↔ span.Within text := by
  rw [Option.isSome_iff_exists]
  simp only [slice_eq_some_iff]
  constructor
  · intro sliced
    obtain ⟨inner, before, after, located⟩ := sliced
    refine ⟨?_, ?_, ⟨before, inner ++ after, located.splits, located.start⟩,
      ⟨before ++ inner, after, ?_, ?_⟩⟩
    · rw [located.start, located.stop]
      exact Nat.le_add_right _ _
    · rw [located.stop, located.splits, Text.byteLength_append, Text.byteLength_append]
      omega
    · rw [located.splits, List.append_assoc]
    · rw [located.stop, Text.byteLength_append]
  · intro within
    obtain ⟨before, rest, split, start⟩ := within.starts
    obtain ⟨front, after, same, stop⟩ := within.stops
    have shorter : byteLength before ≤ byteLength front := by
      rw [← start, ← stop]
      exact within.ordered
    have begins : before <+: front :=
      Text.begins_of_byte_length_le ⟨rest, split.symm⟩ ⟨after, same.symm⟩ shorter
    obtain ⟨inner, rfl⟩ := begins
    refine ⟨inner, before, after, ?_, start, ?_⟩
    · rw [same, List.append_assoc]
    · rw [stop, Text.byteLength_append]

theorem join_within {text : List Char} {first second : Span} (firstWithin : first.Within text)
    (secondWithin : second.Within text) : (first.join second).Within text where
  ordered := (Nat.min_le_left _ _).trans (firstWithin.ordered.trans (Nat.le_max_left _ _))
  inside := Nat.max_le.mpr ⟨firstWithin.inside, secondWithin.inside⟩
  starts := by
    rcases Nat.le_total first.start second.start with lower | lower
    · rw [join, Nat.min_eq_left lower]
      exact firstWithin.starts
    · rw [join, Nat.min_eq_right lower]
      exact secondWithin.starts
  stops := by
    rcases Nat.le_total first.stop second.stop with lower | lower
    · rw [join, Nat.max_eq_right lower]
      exact secondWithin.stops
    · rw [join, Nat.max_eq_left lower]
      exact firstWithin.stops

theorem end_within (text : List Char) : (Span.point (byteLength text)).Within text where
  ordered := le_refl _
  inside := le_refl _
  starts := ⟨text, [], (List.append_nil text).symm, rfl⟩
  stops := ⟨text, [], (List.append_nil text).symm, rfl⟩

end Span

namespace Instruction

def Piece.letters : Piece → List Char
  | token t => t.lexeme.letters
  | bad b => [b.char]

theorem Piece.Fits.inner_eq {piece : Piece} {before inner after : List Char}
    (fits : piece.Fits before inner after) : inner = piece.letters := by
  cases piece <;> exact fits.1

theorem whole_of_part {Part : Type} {part : Piece → Option Part} {whole : Part → Piece}
    (only : ∀ {piece item}, part piece = some item → piece = whole item) {pieces : List Piece}
    {item : Part} (member : item ∈ pieces.filterMap part) : whole item ∈ pieces := by
  obtain ⟨piece, found, isItem⟩ := List.mem_filterMap.mp member
  rw [← only isItem]
  exact found

theorem token_merged {text : List Char} {t : Token} (scanned : t ∈ (scan text).tokens) :
    .token t ∈ (scan text).merged := by
  rw [← merged_tokens] at scanned
  exact whole_of_part Piece.is_token_iff.mp scanned

theorem bad_merged {text : List Char} {b : BadCharacter} (scanned : b ∈ (scan text).bad) :
    .bad b ∈ (scan text).merged := by
  rw [← merged_bad] at scanned
  exact whole_of_part Piece.is_bad_iff.mp scanned

/-- Every piece of a scan is what its span slices out of the text. -/
theorem piece_slice {text : List Char} {piece : Piece} (found : piece ∈ (scan text).merged) :
    piece.span.slice? text = some piece.letters := by
  obtain ⟨before, inner, after, located, fits⟩ := (scan_is_partition text).fits piece found
  rw [← fits.inner_eq]
  exact Span.slice_eq_some_iff.mpr ⟨before, after, located⟩

theorem piece_within {text : List Char} {piece : Piece} (found : piece ∈ (scan text).merged) :
    piece.span.Within text := by
  apply Span.slice_isSome_iff.mp
  rw [piece_slice found]
  rfl

theorem token_slice {text : List Char} {t : Token} (scanned : t ∈ (scan text).tokens) :
    t.span.slice? text = some t.lexeme.letters :=
  piece_slice (token_merged scanned)

theorem bad_slice {text : List Char} {b : BadCharacter} (scanned : b ∈ (scan text).bad) :
    b.span.slice? text = some [b.char] :=
  piece_slice (bad_merged scanned)

theorem token_within {text : List Char} {t : Token} (scanned : t ∈ (scan text).tokens) :
    t.span.Within text :=
  piece_within (token_merged scanned)

theorem bad_within {text : List Char} {b : BadCharacter} (scanned : b ∈ (scan text).bad) :
    b.span.Within text :=
  piece_within (bad_merged scanned)

def Apart (tokens : List Token) : Prop :=
  tokens.Pairwise fun first second => first.span.stop ≤ second.span.start

theorem scanned_tokens_apart (text : List Char) : Apart (scan text).tokens := by
  have apart := parts_in_order (fun first second => first.stop ≤ second.start) Token.span
    span_of_token (scan_is_partition text).apart
  rw [merged_tokens] at apart
  exact apart

end Instruction

end Retirement
