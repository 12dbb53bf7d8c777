import Retirement.Instruction.Token

/-!
How the scanner moves. From a place between lexemes it passes over trivia, takes a whole lexeme or
one stray character, and is then between lexemes again, with nothing remembered but the offset. Each
step is stated for any text that may follow, and what may follow is part of the statement: a word
ends only before a character that could not go on with it, and a comment only before a line feed.
-/

namespace Retirement.Instruction

open Text (byteLength)

/-- The end of the text, or a character that is in no word. -/
def OutsideWord (neighbour : Option Char) : Prop := ∀ c ∈ neighbour, isWordChar c = false

instance (neighbour : Option Char) : Decidable (OutsideWord neighbour) :=
  match neighbour with
  | none => isTrue fun _ impossible => by cases impossible
  | some c =>
      decidable_of_decidable_of_iff (p := isWordChar c = false)
        ⟨fun outside _ same => Option.some.inj same ▸ outside, fun all => all c rfl⟩

def EndsLine (next : Option Char) : Prop := ∀ c ∈ next, c = '\n'

/-- Characters that are passed over where a given text follows: blanks, and comments from a number
sign to the next line feed or to the end of the text. -/
inductive Trivia : List Char → List Char → Prop
  | nothing {after : List Char} : Trivia [] after
  | blank {c : Char} {cs after : List Char} : isLayout c = true → Trivia cs after →
      Trivia (c :: cs) after
  | comment {body cs after : List Char} : '\n' ∉ body → EndsLine (cs ++ after).head? →
      Trivia cs after → Trivia ('#' :: body ++ cs) after

def IsStray (c : Char) : Prop :=
  isWordChar c = false ∧ isLayout c = false ∧ c ∉ [',', '(', ')', '#']

namespace Lexeme

def letters : Lexeme → List Char
  | comma => [',']
  | leftParen => ['(']
  | rightParen => [')']
  | word text => text.toList

/-- A word has characters, all of them of the word alphabet, and does not go on in what follows. -/
def StandsBefore (after : List Char) : Lexeme → Prop
  | word text =>
      text.toList ≠ [] ∧ (∀ c ∈ text.toList, isWordChar c = true) ∧ OutsideWord after.head?
  | _ => True

instance (after : List Char) (lexeme : Lexeme) : Decidable (lexeme.StandsBefore after) :=
  match lexeme with
  | word text =>
      have letterwise : text.toList.all isWordChar = true ↔
          ∀ c ∈ text.toList, isWordChar c = true := List.all_eq_true
      decidable_of_decidable_of_iff (and_congr Iff.rfl (and_congr letterwise Iff.rfl))
  | comma | leftParen | rightParen => isTrue trivial

end Lexeme

theorem layout_is_no_word_char {c : Char} (layout : isLayout c = true) :
    isWordChar c = false ∧ c ≠ '#' ∧ ∀ offset, single offset c = [] := by
  have blanks : c = ' ' ∨ c = '\t' ∨ c = '\r' ∨ c = '\n' := by
    simpa [isLayout, or_assoc] using layout
  rcases blanks with rfl | rfl | rfl | rfl <;> exact ⟨by decide, by decide, fun _ => rfl⟩

theorem scan_between_cons {c : Char} (outside : isWordChar c = false) (offset : Nat)
    (cs : List Char) :
    scanFrom .between offset (c :: cs) =
      single offset c ++
        scanFrom (if c = '#' then .comment else .between) (offset + c.utf8Size) cs := by
  rw [scanFrom.eq_3 _ _ _ _ Mode.noConfusion, if_neg (by simp [outside])]
  rfl

theorem scan_blank {c : Char} (layout : isLayout c = true) (offset : Nat) (cs : List Char) :
    scanFrom .between offset (c :: cs) = scanFrom .between (offset + c.utf8Size) cs := by
  obtain ⟨outside, noComment, contributes⟩ := layout_is_no_word_char layout
  rw [scan_between_cons outside, contributes, if_neg noComment]
  rfl

theorem scan_comment_body {body : List Char} (oneLine : '\n' ∉ body) (offset : Nat)
    (rest : List Char) :
    scanFrom .comment offset (body ++ rest) =
      scanFrom .comment (offset + byteLength body) rest := by
  induction body generalizing offset with
  | nil => rfl
  | cons c cs ih =>
      rw [List.mem_cons, not_or] at oneLine
      have goesOn : c ≠ '\n' := fun same => oneLine.1 same.symm
      rw [List.cons_append, scanFrom.eq_2, if_neg goesOn, ih oneLine.2, Text.byteLength_cons,
        Nat.add_assoc]

/-- A line feed is a blank, so where a line ends it does not matter whether it was in a comment. -/
theorem scan_comment_end {rest : List Char} (ends : EndsLine rest.head?) (offset : Nat) :
    scanFrom .comment offset rest = scanFrom .between offset rest := by
  cases rest with
  | nil => rfl
  | cons c cs =>
      have lineFeed : c = '\n' := ends c rfl
      rw [scanFrom.eq_2, if_pos lineFeed, scan_blank (by rw [lineFeed]; decide)]

theorem scan_trivia {gap after : List Char} (passed : Trivia gap after) (offset : Nat) :
    scanFrom .between offset (gap ++ after) =
      scanFrom .between (offset + byteLength gap) after := by
  induction passed generalizing offset with
  | nothing => rfl
  | blank layout _ ih =>
      rw [List.cons_append, scan_blank layout, ih, Text.byteLength_cons, Nat.add_assoc]
  | @comment body cs after oneLine ends _ ih =>
      have opens : scanFrom .between offset ('#' :: (body ++ (cs ++ after))) =
          scanFrom .comment (offset + '#'.utf8Size) (body ++ (cs ++ after)) := by
        rw [scan_between_cons (by decide)]
        rfl
      rw [List.append_assoc, List.cons_append, opens, scan_comment_body oneLine,
        scan_comment_end ends, ih]
      simp only [List.cons_append, Text.byteLength_cons, Text.byteLength_append, Nat.add_assoc]

theorem scan_letters {run : List Char} (inside : ∀ c ∈ run, isWordChar c = true)
    (start offset : Nat) (letters rest : List Char) :
    scanFrom (.word start letters) offset (run ++ rest) =
      scanFrom (.word start (run.reverse ++ letters)) (offset + byteLength run) rest := by
  induction run generalizing offset letters with
  | nil => rfl
  | cons c cs ih =>
      have here : isWordChar c = true := inside c List.mem_cons_self
      have later : ∀ d ∈ cs, isWordChar d = true :=
        fun d member => inside d (List.mem_cons_of_mem c member)
      rw [List.cons_append, scanFrom.eq_3 _ _ _ _ Mode.noConfusion, if_pos here]
      change scanFrom (.word start (c :: letters)) _ (cs ++ rest) = _
      rw [ih later]
      simp [Nat.add_assoc]

theorem scan_word_end {rest : List Char} (ends : OutsideWord rest.head?) (start offset : Nat)
    (letters : List Char) :
    scanFrom (.word start letters) offset rest =
      .token ⟨.word (String.ofList letters.reverse), ⟨start, offset⟩⟩ ::
        scanFrom .between offset rest := by
  cases rest with
  | nil => rfl
  | cons c cs =>
      have outside : isWordChar c = false := ends c rfl
      rw [scan_between_cons outside, scanFrom.eq_3 _ _ _ _ Mode.noConfusion,
        if_neg (by simp [outside])]
      rfl

theorem scan_word {word : String} {after : List Char}
    (stands : (Lexeme.word word).StandsBefore after) (offset : Nat) :
    scanFrom .between offset (word.toList ++ after) =
      .token ⟨.word word, ⟨offset, offset + byteLength word.toList⟩⟩ ::
        scanFrom .between (offset + byteLength word.toList) after := by
  obtain ⟨filled, inside, ends⟩ := stands
  cases split : word.toList with
  | nil => exact absurd split filled
  | cons c cs =>
      rw [split] at inside
      have here : isWordChar c = true := inside c List.mem_cons_self
      have later : ∀ d ∈ cs, isWordChar d = true :=
        fun d member => inside d (List.mem_cons_of_mem c member)
      have whole : String.ofList (cs.reverse ++ [c]).reverse = word := by
        rw [List.reverse_append, List.reverse_reverse, List.reverse_singleton,
          List.singleton_append, ← split, String.ofList_toList]
      rw [List.cons_append, scanFrom.eq_3 _ _ _ _ Mode.noConfusion, if_pos here]
      change scanFrom (.word offset [c]) _ (cs ++ after) = _
      rw [scan_letters later, scan_word_end ends, whole]
      simp only [Text.byteLength_cons, Nat.add_assoc]

theorem scan_lexeme {lexeme : Lexeme} {after : List Char} (stands : lexeme.StandsBefore after)
    (offset : Nat) :
    scanFrom .between offset (lexeme.letters ++ after) =
      .token ⟨lexeme, ⟨offset, offset + byteLength lexeme.letters⟩⟩ ::
        scanFrom .between (offset + byteLength lexeme.letters) after := by
  cases lexeme with
  | comma => exact scan_between_cons (by decide) offset after
  | leftParen => exact scan_between_cons (by decide) offset after
  | rightParen => exact scan_between_cons (by decide) offset after
  | word text => exact scan_word stands offset

theorem scan_stray {c : Char} (stray : IsStray c) (offset : Nat) (after : List Char) :
    scanFrom .between offset (c :: after) =
      .bad ⟨c, ⟨offset, offset + c.utf8Size⟩⟩ ::
        scanFrom .between (offset + c.utf8Size) after := by
  obtain ⟨outside, noLayout, noMark⟩ := stray
  simp only [List.mem_cons, List.not_mem_nil, or_false, not_or] at noMark
  obtain ⟨noComma, noLeft, noRight, noComment⟩ := noMark
  have contributes : single offset c = [.bad ⟨c, ⟨offset, offset + c.utf8Size⟩⟩] := by
    simp [single, noComma, noLeft, noRight, noLayout, noComment]
  rw [scan_between_cons outside, contributes, if_neg noComment]
  rfl

theorem Piece.is_token_iff {piece : Piece} {t : Token} :
    piece.token? = some t ↔ piece = .token t := by
  cases piece <;> simp [token?]

theorem Piece.is_bad_iff {piece : Piece} {b : BadCharacter} :
    piece.bad? = some b ↔ piece = .bad b := by
  cases piece <;> simp [bad?]

theorem token_of_tokens (tokens : List Token) :
    (tokens.map Piece.token).filterMap Piece.token? = tokens := by
  rw [List.filterMap_map]
  exact List.filterMap_some

theorem bad_of_bad (bad : List BadCharacter) :
    (bad.map Piece.bad).filterMap Piece.bad? = bad := by
  rw [List.filterMap_map]
  exact List.filterMap_some

theorem bad_of_tokens (tokens : List Token) :
    (tokens.map Piece.token).filterMap Piece.bad? = [] := by
  rw [List.filterMap_map]
  simp [Function.comp_def, Piece.bad?]

theorem token_of_bad (bad : List BadCharacter) :
    (bad.map Piece.bad).filterMap Piece.token? = [] := by
  rw [List.filterMap_map]
  simp [Function.comp_def, Piece.token?]

end Retirement.Instruction
