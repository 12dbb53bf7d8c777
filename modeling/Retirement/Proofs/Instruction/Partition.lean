import Retirement.Proofs.Instruction.Tiling

/-!
What a scan is, said without a scanner. The spans of a scan cut the text into lexemes, stray
characters and, between them, trivia; every word goes as far as it can in both directions. Of every
text there is exactly one such partition, and it is the one that the scanner finds.

Spans and tilings say the same. A tiling gives each piece and each gap its place in the text, and
since a place is given in bytes, which determine how the text is cut there, the places give the
tiling back.
-/

namespace Retirement.Instruction

open Text (byteLength)

structure Located (text : List Char) (span : Span) (before inner after : List Char) : Prop where
  splits : text = before ++ (inner ++ after)
  start : span.start = byteLength before
  stop : span.stop = byteLength before + byteLength inner

/-- The spans between given ones, from `start` to the end of the text. -/
def gaps (stop : Nat) : Nat → List Span → List Span
  | start, [] => [⟨start, stop⟩]
  | start, span :: rest => ⟨start, span.start⟩ :: gaps stop span.stop rest

def Scan.merged (scan : Scan) : List Piece :=
  (scan.tokens.map .token).merge (scan.bad.map .bad) fun first second =>
    first.span.start ≤ second.span.start

def FitsText (text : List Char) (pieces : List Piece) : Prop :=
  ∀ piece ∈ pieces, ∃ before inner after,
    Located text piece.span before inner after ∧ piece.Fits before inner after

def HoldTrivia (text : List Char) (spans : List Span) : Prop :=
  ∀ span ∈ spans, ∃ before inner after, Located text span before inner after ∧ Trivia inner after

structure Partition (text : List Char) (scan : Scan) : Prop where
  tokens_in_order : scan.tokens.Pairwise fun first second => first.span.start < second.span.start
  bad_in_order : scan.bad.Pairwise fun first second => first.span.start < second.span.start
  filled : ∀ piece ∈ scan.merged, piece.span.start < piece.span.stop
  apart : scan.merged.Pairwise fun first second => first.span.stop ≤ second.span.start
  fits : FitsText text scan.merged
  between : HoldTrivia text (gaps (byteLength text) 0 (scan.merged.map Piece.span))

theorem Located.inner_of_start {text before rest left inner after : List Char} {span : Span}
    (located : Located text span left inner after) (split : text = before ++ rest)
    (start : span.start = byteLength before) : left = before ∧ rest = inner ++ after := by
  have same : left ++ (inner ++ after) = before ++ rest := located.splits.symm.trans split
  have cut := Text.cut_unique same (located.start.symm.trans start)
  exact ⟨cut.1, cut.2.symm⟩

theorem Piece.Fits.filled {piece : Piece} {before inner after : List Char}
    (fits : piece.Fits before inner after) : inner ≠ [] := by
  cases piece with
  | bad b =>
      rw [fits.1]
      exact List.cons_ne_nil _ _
  | token t =>
      rw [fits.1]
      have stands := fits.2.2
      cases shape : t.lexeme with
      | word text =>
          rw [shape] at stands
          exact stands.1
      | _ => exact List.cons_ne_nil _ _

theorem Tiles.fits_text {before text : List Char} {pieces : List Piece}
    (tiles : Tiles before text pieces) : FitsText (before ++ text) pieces := by
  induction tiles with
  | done => simp [FitsText]
  | @piece before gap inner after piece pieces passed fits place _ ih =>
      intro other member
      rcases List.mem_cons.mp member with rfl | later
      · refine ⟨before ++ gap, inner, after, ⟨?_, ?_, ?_⟩, fits⟩
        · rw [List.append_assoc]
        · rw [place]
        · rw [place, Text.byteLength_append _ inner]
      · have found := ih other later
        simp only [List.append_assoc] at found
        exact found

theorem Tiles.gaps_hold_trivia {before text : List Char} {pieces : List Piece}
    (tiles : Tiles before text pieces) :
    HoldTrivia (before ++ text)
      (gaps (byteLength (before ++ text)) (byteLength before) (pieces.map Piece.span)) := by
  induction tiles with
  | @done before gap passed =>
      intro span member
      rw [List.mem_singleton.mp member]
      refine ⟨before, gap, [], ⟨?_, rfl, Text.byteLength_append before gap⟩, passed⟩
      rw [List.append_nil]
  | @piece before gap inner after piece pieces passed fits place _ ih =>
      intro span member
      rcases List.mem_cons.mp member with rfl | later
      · refine ⟨before, gap, inner ++ after, ⟨rfl, rfl, ?_⟩, passed⟩
        rw [place, Text.byteLength_append before gap]
      · rw [place] at later
        simp only [List.append_assoc] at ih later
        exact ih span later

theorem tiles_of_places {text before rest : List Char} {pieces : List Piece}
    (split : text = before ++ rest) (fits : FitsText text pieces)
    (between : HoldTrivia text
      (gaps (byteLength text) (byteLength before) (pieces.map Piece.span))) :
    Tiles before rest pieces := by
  induction pieces generalizing before rest with
  | nil =>
      obtain ⟨left, gap, after, located, passed⟩ := between _ (List.mem_singleton.mpr rfl)
      obtain ⟨rfl, rfl⟩ := located.inner_of_start split rfl
      have reaches : byteLength text = byteLength left + byteLength gap := located.stop
      rw [split, Text.byteLength_append, Text.byteLength_append] at reaches
      have nothing : after = [] := by
        by_contra filled
        have positive := Text.byteLength_pos filled
        omega
      rw [nothing] at passed ⊢
      rw [List.append_nil]
      exact .done passed
  | cons piece pieces ih =>
      obtain ⟨left, gap, after, located, passed⟩ := between _ List.mem_cons_self
      obtain ⟨rfl, rfl⟩ := located.inner_of_start split rfl
      have start : piece.span.start = byteLength (left ++ gap) :=
        located.stop.trans (Text.byteLength_append left gap).symm
      have regrouped : text = (left ++ gap) ++ after := by
        rw [split, List.append_assoc]
      obtain ⟨front, inner, later, found, fit⟩ := fits piece List.mem_cons_self
      obtain ⟨rfl, rfl⟩ := found.inner_of_start regrouped start
      have stop : piece.span.stop = byteLength (left ++ gap ++ inner) :=
        found.stop.trans (Text.byteLength_append _ inner).symm
      have place : piece.span =
          ⟨byteLength (left ++ gap), byteLength (left ++ gap ++ inner)⟩ := by
        rw [← start, ← stop]
      have further : text = (left ++ gap ++ inner) ++ later := by
        rw [regrouped, List.append_assoc _ inner]
      apply Tiles.piece passed fit place
      apply ih further
      · intro other member
        exact fits other (List.mem_cons_of_mem piece member)
      · intro span member
        rw [← stop] at member
        exact between span (List.mem_cons_of_mem _ member)

theorem FitsText.filled {text : List Char} {pieces : List Piece} (fits : FitsText text pieces) :
    ∀ piece ∈ pieces, piece.span.start < piece.span.stop := by
  intro piece member
  obtain ⟨before, inner, after, located, fit⟩ := fits piece member
  rw [located.start, located.stop]
  exact Nat.lt_add_of_pos_right (Text.byteLength_pos fit.filled)

theorem HoldTrivia.start_le_stop {text : List Char} {spans : List Span}
    (passed : HoldTrivia text spans) : ∀ span ∈ spans, span.start ≤ span.stop := by
  intro span member
  obtain ⟨before, inner, after, located, _⟩ := passed span member
  rw [located.start, located.stop]
  exact Nat.le_add_right _ _

/-- Where gaps do not run backwards, spans come one after another. -/
theorem spans_apart {stop start : Nat} {spans : List Span}
    (filled : ∀ span ∈ spans, span.start < span.stop)
    (forward : ∀ gap ∈ gaps stop start spans, gap.start ≤ gap.stop) :
    (∀ span ∈ spans, start ≤ span.start) ∧
      spans.Pairwise fun first second => first.stop ≤ second.start := by
  induction spans generalizing start with
  | nil => exact ⟨by simp, List.Pairwise.nil⟩
  | cons span rest ih =>
      have here : start ≤ span.start := forward _ List.mem_cons_self
      have width : span.start < span.stop := filled span List.mem_cons_self
      obtain ⟨later, ordered⟩ := ih
        (fun other member => filled other (List.mem_cons_of_mem span member))
        (fun gap member => forward gap (List.mem_cons_of_mem _ member))
      refine ⟨?_, List.pairwise_cons.mpr ⟨later, ordered⟩⟩
      intro other member
      rcases List.mem_cons.mp member with rfl | further
      · exact here
      · exact here.trans (width.le.trans (later other further))

theorem pieces_apart {text : List Char} {start : Nat} {pieces : List Piece}
    (fits : FitsText text pieces)
    (between : HoldTrivia text (gaps (byteLength text) start (pieces.map Piece.span))) :
    pieces.Pairwise fun first second => first.span.stop ≤ second.span.start := by
  have filled : ∀ span ∈ pieces.map Piece.span, span.start < span.stop := by
    intro span member
    obtain ⟨piece, found, rfl⟩ := List.mem_map.mp member
    exact fits.filled piece found
  have ordered := (spans_apart filled between.start_le_stop).2
  exact List.pairwise_map.mp ordered

/-- Merging keeps tokens and bad characters in their own orders, whatever the places. -/
theorem merge_separates (earlier : Piece → Piece → Bool) (tokens : List Token)
    (bad : List BadCharacter) :
    let merged := (tokens.map Piece.token).merge (bad.map Piece.bad) earlier
    merged.filterMap Piece.token? = tokens ∧ merged.filterMap Piece.bad? = bad := by
  induction tokens generalizing bad with
  | nil =>
      rw [List.map_nil, List.nil_merge]
      exact ⟨token_of_bad bad, bad_of_bad bad⟩
  | cons t ts ih =>
      induction bad with
      | nil =>
          rw [List.map_nil, List.merge_right]
          exact ⟨token_of_tokens (t :: ts), bad_of_tokens (t :: ts)⟩
      | cons b bs ihBad =>
          rw [List.map_cons, List.map_cons, List.cons_merge_cons]
          split_ifs
          · obtain ⟨sameTokens, sameBad⟩ := ih (b :: bs)
            exact ⟨congrArg (List.cons t) sameTokens, sameBad⟩
          · obtain ⟨sameTokens, sameBad⟩ := ihBad
            exact ⟨sameTokens, congrArg (List.cons b) sameBad⟩

theorem merged_tokens (scan : Scan) : scan.merged.filterMap Piece.token? = scan.tokens :=
  (merge_separates _ scan.tokens scan.bad).1

theorem merged_bad (scan : Scan) : scan.merged.filterMap Piece.bad? = scan.bad :=
  (merge_separates _ scan.tokens scan.bad).2

theorem merge_takes_first {Item : Type*} {earlier : Item → Item → Bool} {item : Item}
    {others : List Item} (least : ∀ other ∈ others, earlier item other = true)
    (items : List Item) :
    (item :: items).merge others earlier = item :: items.merge others earlier := by
  cases others with
  | nil => rw [List.merge_right, List.merge_right]
  | cons other rest => exact List.cons_merge_cons_pos _ _ _ (least other List.mem_cons_self)

theorem merge_takes_second {Item : Type*} {earlier : Item → Item → Bool} {item : Item}
    {others : List Item} (least : ∀ other ∈ others, ¬ earlier other item = true)
    (items : List Item) :
    others.merge (item :: items) earlier = item :: others.merge items earlier := by
  cases others with
  | nil => rw [List.nil_merge, List.nil_merge]
  | cons other rest => exact List.cons_merge_cons_neg _ _ _ (least other List.mem_cons_self)

/-- Pieces that come in order are merged back from their tokens and bad characters. -/
theorem merged_of_ordered {pieces : List Piece}
    (ordered : pieces.Pairwise fun first second => first.span.start < second.span.start) :
    (Scan.mk (pieces.filterMap Piece.token?) (pieces.filterMap Piece.bad?)).merged = pieces := by
  induction pieces with
  | nil => exact List.nil_merge []
  | cons piece rest ih =>
      rw [List.pairwise_cons] at ordered
      have merged := ih ordered.2
      cases piece with
      | token t =>
          apply (merge_takes_first _ _).trans (congrArg (List.cons (.token t)) merged)
          intro other member
          obtain ⟨b, found, rfl⟩ := List.mem_map.mp member
          obtain ⟨piece, inRest, isBad⟩ := List.mem_filterMap.mp found
          rw [Piece.is_bad_iff.mp isBad] at inRest
          exact decide_eq_true (ordered.1 _ inRest).le
      | bad b =>
          apply (merge_takes_second _ _).trans (congrArg (List.cons (.bad b)) merged)
          intro other member
          obtain ⟨t, found, rfl⟩ := List.mem_map.mp member
          obtain ⟨piece, inRest, isToken⟩ := List.mem_filterMap.mp found
          rw [Piece.is_token_iff.mp isToken] at inRest
          rw [decide_eq_true_eq]
          exact (ordered.1 _ inRest).not_ge

theorem pieces_in_order {pieces : List Piece}
    (filled : ∀ piece ∈ pieces, piece.span.start < piece.span.stop)
    (apart : pieces.Pairwise fun first second => first.span.stop ≤ second.span.start) :
    pieces.Pairwise fun first second => first.span.start < second.span.start := by
  apply apart.imp_of_mem
  intro first second member _ ordered
  exact (filled first member).trans_le ordered

/-- Tokens alone, or bad characters alone, stand to each other as the pieces do. -/
theorem parts_in_order (relation : Span → Span → Prop) {Part : Type*} (span : Part → Span)
    {part : Piece → Option Part}
    (whole : ∀ {piece item}, part piece = some item → piece.span = span item)
    {pieces : List Piece}
    (ordered : pieces.Pairwise fun first second => relation first.span second.span) :
    (pieces.filterMap part).Pairwise fun first second => relation (span first) (span second) := by
  apply ordered.filterMap
  intro first second related item isFirst other isSecond
  rw [← whole isFirst, ← whole isSecond]
  exact related

theorem span_of_token {piece : Piece} {t : Token} (isToken : piece.token? = some t) :
    piece.span = t.span := by
  rw [Piece.is_token_iff.mp isToken]
  rfl

theorem span_of_bad {piece : Piece} {b : BadCharacter} (isBad : piece.bad? = some b) :
    piece.span = b.span := by
  rw [Piece.is_bad_iff.mp isBad]
  rfl

theorem scan_is_partition (text : List Char) : Partition text (scan text) := by
  have tiles : Tiles [] text (scanFrom .between 0 text) :=
    scan_tiles (Or.inl fun c impossible => by cases impossible)
  have fits := tiles.fits_text
  have between := tiles.gaps_hold_trivia
  rw [List.nil_append] at fits between
  have filled := fits.filled
  have apart := pieces_apart fits between
  have ordered := pieces_in_order filled apart
  have merged : (scan text).merged = scanFrom .between 0 text := merged_of_ordered ordered
  refine ⟨?_, ?_, ?_, ?_, ?_, ?_⟩
  · exact parts_in_order (fun first second => first.start < second.start) Token.span
      span_of_token ordered
  · exact parts_in_order (fun first second => first.start < second.start) BadCharacter.span
      span_of_bad ordered
  · rw [merged]
    exact filled
  · rw [merged]
    exact apart
  · rw [merged]
    exact fits
  · rw [merged]
    exact between

theorem Partition.eq_scan {text : List Char} {other : Scan} (partition : Partition text other) :
    other = scan text := by
  have tiles : Tiles [] text other.merged :=
    tiles_of_places (List.nil_append text).symm partition.fits partition.between
  have merged : other.merged = scanFrom .between 0 text := tiles.eq_scan
  calc
    other = ⟨other.merged.filterMap Piece.token?, other.merged.filterMap Piece.bad?⟩ := by
      rw [merged_tokens, merged_bad]
    _ = scan text := by
      rw [merged]
      rfl

/-- A scan neither loses nor doubles anything: it cuts the text into lexemes, stray characters and
trivia, with every word as long as it can be. Nothing else is such a partition of the text. -/
theorem scan_is_the_only_partition (text : List Char) (other : Scan) :
    Partition text other ↔ other = scan text := by
  constructor
  · exact Partition.eq_scan
  · intro same
    rw [same]
    exact scan_is_partition text

end Retirement.Instruction
