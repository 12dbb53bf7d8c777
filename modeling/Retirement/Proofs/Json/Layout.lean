import Mathlib.Data.List.Basic
import Retirement.Json.Reader

/-!
What JSON texts look like, told without a reader: how strings are spelled, where blanks may stand,
how numbers are built and how containers hold their items. Readers are compared with this.
-/

namespace Retirement.Json

def Blank (gap : List Char) : Prop := ∀ c ∈ gap, isSpace c = true

def shortEscapes : List (Char × Char) :=
  [('"', '"'), ('\\', '\\'), ('/', '/'), ('b', '\x08'), ('f', '\x0c'), ('n', '\n'), ('r', '\r'),
   ('t', '\t')]

def IsPlain (c : Char) : Prop := 32 ≤ c.toNat ∧ c ≠ '"' ∧ c ≠ '\\'

instance (c : Char) : Decidable (IsPlain c) := inferInstanceAs (Decidable (_ ∧ _))

/-- The second text spells the first between quotes. A character beyond the first plane may be
written as the pair of its surrogates. -/
inductive Spells : List Char → List Char → Prop
  | nil : Spells [] []
  | plain {c : Char} {letters body : List Char} (plain : IsPlain c) (rest : Spells letters body) :
      Spells (c :: letters) (c :: body)
  | short {mark c : Char} {letters body : List Char} (escape : (mark, c) ∈ shortEscapes)
      (rest : Spells letters body) : Spells (c :: letters) ('\\' :: mark :: body)
  | code {c d₁ d₂ d₃ d₄ : Char} {letters body : List Char}
      (digits : hexQuad? d₁ d₂ d₃ d₄ = some c.toNat) (rest : Spells letters body) :
      Spells (c :: letters) ('\\' :: 'u' :: d₁ :: d₂ :: d₃ :: d₄ :: body)
  | pair {c d₁ d₂ d₃ d₄ e₁ e₂ e₃ e₄ : Char} {letters body : List Char} (beyond : 0x10000 ≤ c.toNat)
      (leading : hexQuad? d₁ d₂ d₃ d₄ = some (0xd800 + (c.toNat - 0x10000) / 0x400))
      (trailing : hexQuad? e₁ e₂ e₃ e₄ = some (0xdc00 + (c.toNat - 0x10000) % 0x400))
      (rest : Spells letters body) :
      Spells (c :: letters)
        ('\\' :: 'u' :: d₁ :: d₂ :: d₃ :: d₄ :: '\\' :: 'u' :: e₁ :: e₂ :: e₃ :: e₄ :: body)

/-- What may stand between quotes at all. Here any four hexadecimal digits will do. -/
inductive Quotable : List Char → Prop
  | nil : Quotable []
  | plain {c : Char} {body : List Char} (plain : IsPlain c) (rest : Quotable body) :
      Quotable (c :: body)
  | short {mark c : Char} {body : List Char} (escape : (mark, c) ∈ shortEscapes)
      (rest : Quotable body) : Quotable ('\\' :: mark :: body)
  | code {unit : Nat} {d₁ d₂ d₃ d₄ : Char} {body : List Char}
      (digits : hexQuad? d₁ d₂ d₃ d₄ = some unit) (rest : Quotable body) :
      Quotable ('\\' :: 'u' :: d₁ :: d₂ :: d₃ :: d₄ :: body)

def quotedText (body : List Char) : List Char := '"' :: (body ++ ['"'])

def StringText (s : String) (text : List Char) : Prop :=
  ∃ body, Spells s.toList body ∧ text = quotedText body

/-- A string of which only the form is known. -/
def RawText (body text : List Char) : Prop := Quotable body ∧ text = quotedText body

def DigitRun (text : List Char) : Prop := text ≠ [] ∧ ∀ c ∈ text, isDigit c = true

/-- The digits before the point: a leading zero stands alone. -/
def WholePart (text : List Char) : Prop := DigitRun text ∧ (text.head? = some '0' → text = ['0'])

inductive FractionPart : List Char → Prop
  | none : FractionPart []
  | some {digits : List Char} (run : DigitRun digits) : FractionPart ('.' :: digits)

inductive ExponentPart : List Char → Prop
  | none : ExponentPart []
  | some {mark : Char} {sign digits : List Char} (marked : mark = 'e' ∨ mark = 'E')
      (signed : sign = [] ∨ sign = ['+'] ∨ sign = ['-']) (run : DigitRun digits) :
      ExponentPart (mark :: (sign ++ digits))

inductive MagnitudeText : List Char → Prop
  | intro {whole fraction exponent : List Char} (wholePart : WholePart whole)
      (fractionPart : FractionPart fraction) (exponentPart : ExponentPart exponent) :
      MagnitudeText (whole ++ (fraction ++ exponent))

inductive Separated {Entry : Type} (written : Entry → List Char → Prop) :
    List Entry → List Char → Prop
  | last {entry : Entry} {text : List Char} (first : written entry text) :
      Separated written [entry] text
  | more {entry : Entry} {entries : List Entry} {text body : List Char}
      (first : written entry text) (rest : Separated written entries body) :
      Separated written (entry :: entries) (text ++ ',' :: body)

def Enclosed {Entry : Type} (opening closing : Char) (written : Entry → List Char → Prop)
    (entries : List Entry) (text : List Char) : Prop :=
  ∃ body, text = opening :: (body ++ [closing]) ∧
    (entries = [] ∧ Blank body ∨ Separated written entries body)

inductive ItemText {Entry : Type} (written : Entry → List Char → Prop) : Entry → List Char → Prop
  | intro {entry : Entry} {lead item trail : List Char} (leadBlank : Blank lead)
      (itemWritten : written entry item) (trailBlank : Blank trail) :
      ItemText written entry (lead ++ (item ++ trail))

inductive MemberText {Name : Type} (spelled : Name → List Char → Prop) :
    Name × List Char → List Char → Prop
  | intro {name : Name} {lead nameText beforeColon afterColon value trail : List Char}
      (leadBlank : Blank lead) (nameSpelled : spelled name nameText)
      (beforeBlank : Blank beforeColon) (afterBlank : Blank afterColon)
      (trailBlank : Blank trail) :
      MemberText spelled (name, value)
        (lead ++ (nameText ++ (beforeColon ++ ':' :: (afterColon ++ (value ++ trail)))))

def ArrayText {Entry : Type} (written : Entry → List Char → Prop) :
    List Entry → List Char → Prop := Enclosed '[' ']' (ItemText written)

def ObjectText {Name : Type} (spelled : Name → List Char → Prop) :
    List (Name × List Char) → List Char → Prop := Enclosed '\x7b' '\x7d' (MemberText spelled)

/-- Any JSON value. Brackets may be nested to any depth. -/
inductive WellFormed : List Char → Prop
  | null : WellFormed ['n', 'u', 'l', 'l']
  | true : WellFormed ['t', 'r', 'u', 'e']
  | false : WellFormed ['f', 'a', 'l', 's', 'e']
  | number {sign magnitude : List Char} (signed : sign = [] ∨ sign = ['-'])
      (text : MagnitudeText magnitude) : WellFormed (sign ++ magnitude)
  | string {body : List Char} (quotable : Quotable body) : WellFormed (quotedText body)
  | array {items : List (List Char)} {text : List Char} (layout : ArrayText Eq items text)
      (inner : ∀ item ∈ items, WellFormed item) : WellFormed text
  | object {members : List (List Char × List Char)} {text : List Char}
      (layout : ObjectText RawText members text)
      (inner : ∀ member ∈ members, WellFormed member.2) : WellFormed text

def Ends (tail : List Char) : Prop :=
  ∀ c ∈ tail.head?, isSpace c = true ∨ c = ',' ∨ c = ']' ∨ c = '\x7d'

theorem ends_cons {c : Char} (closes : c = ',' ∨ c = ']' ∨ c = '\x7d') (rest : List Char) :
    Ends (c :: rest) := by
  intro first member
  obtain rfl := Option.some.inj member
  exact Or.inr closes

theorem ends_blank {gap tail : List Char} (blank : Blank gap) (ends : Ends tail) :
    Ends (gap ++ tail) := by
  cases gap with
  | nil => exact ends
  | cons space rest =>
      intro first member
      obtain rfl := Option.some.inj member
      exact Or.inl (blank space List.mem_cons_self)

theorem blank_nil : Blank [] := by
  intro c member
  contradiction

theorem blank_append {first second : List Char} (firstBlank : Blank first)
    (secondBlank : Blank second) : Blank (first ++ second) :=
  List.forall_mem_append.mpr ⟨firstBlank, secondBlank⟩

theorem separated_count {Entry : Type} {written : Entry → List Char → Prop}
    {entries : List Entry} {body : List Char} (layout : Separated written entries body) :
    entries.length ≤ body.length + 1 := by
  induction layout with
  | last first => exact Nat.succ_le_succ (Nat.zero_le _)
  | more first rest ih =>
      simp only [List.length_cons, List.length_append]
      omega

section

variable {Entry Other : Type} {written : Entry → List Char → Prop}

theorem Separated.imp {other : Entry → List Char → Prop} {entries : List Entry}
    (implies : ∀ entry ∈ entries, ∀ text, written entry text → other entry text)
    {body : List Char} (layout : Separated written entries body) :
    Separated other entries body := by
  induction layout with
  | last first => exact .last (implies _ List.mem_cons_self _ first)
  | more first rest ih =>
      obtain ⟨here, later⟩ := List.forall_mem_cons.mp implies
      exact .more (here _ first) (ih later)

theorem Separated.map {image : Other → Entry} {entries : List Other} {body : List Char}
    (layout : Separated (fun entry => written (image entry)) entries body) :
    Separated written (entries.map image) body := by
  induction layout with
  | last first => exact .last first
  | more first rest ih => exact .more first ih

theorem Separated.of_map {image : Other → Entry} {entries : List Other} {body : List Char}
    (layout : Separated written (entries.map image) body) :
    Separated (fun entry => written (image entry)) entries body := by
  generalize same : entries.map image = images at layout
  induction layout generalizing entries with
  | last first =>
      obtain ⟨entry, rfl, rfl⟩ := List.map_eq_singleton_iff.mp same
      exact .last first
  | more first rest ih =>
      obtain ⟨entry, entries, rfl, rfl, others⟩ := List.map_eq_cons_iff.mp same
      exact .more first (ih others)

variable {opening closing : Char} {text : List Char}

theorem Enclosed.imp {other : Entry → List Char → Prop} {entries : List Entry}
    (implies : ∀ entry ∈ entries, ∀ text, written entry text → other entry text)
    (layout : Enclosed opening closing written entries text) :
    Enclosed opening closing other entries text := by
  obtain ⟨body, same, content⟩ := layout
  exact ⟨body, same, content.imp_right (Separated.imp implies)⟩

theorem Enclosed.map {image : Other → Entry} {entries : List Other}
    (layout : Enclosed opening closing (fun entry => written (image entry)) entries text) :
    Enclosed opening closing written (entries.map image) text := by
  obtain ⟨body, same, content⟩ := layout
  rw [Enclosed, List.map_eq_nil_iff]
  exact ⟨body, same, content.imp_right Separated.map⟩

theorem Enclosed.of_map {image : Other → Entry} {entries : List Other}
    (layout : Enclosed opening closing written (entries.map image) text) :
    Enclosed opening closing (fun entry => written (image entry)) entries text := by
  rw [Enclosed, List.map_eq_nil_iff] at layout
  obtain ⟨body, same, content⟩ := layout
  exact ⟨body, same, content.imp_right Separated.of_map⟩

theorem ItemText.imp {other : Other → List Char → Prop} {entry : Entry} {otherEntry : Other}
    (implies : ∀ item, written entry item → other otherEntry item)
    (layout : ItemText written entry text) : ItemText other otherEntry text := by
  obtain ⟨leadBlank, itemWritten, trailBlank⟩ := layout
  exact .intro leadBlank (implies _ itemWritten) trailBlank

end

theorem member_value_fits {Name : Type} {spelled : Name → List Char → Prop}
    {member : Name × List Char} {text : List Char} (layout : MemberText spelled member text) :
    member.2.length ≤ text.length := by
  cases layout
  simp only [List.length_append, List.length_cons]
  omega

theorem spaces_from_blank {gap : List Char} (blank : Blank gap) (offset : Nat)
    (rest : List Char) : spacesFrom offset (gap ++ rest) = spacesFrom (offset + gap.length) rest := by
  induction gap generalizing offset with
  | nil => rfl
  | cons space gap ih =>
      obtain ⟨first, later⟩ := List.forall_mem_cons.mp blank
      rw [List.cons_append, spacesFrom, if_pos first, ih later, List.length_cons, Nat.add_right_comm]
      rfl

/-- Blanks before something else are skipped, and nothing more. -/
theorem skip_blank {gap : List Char} (blank : Blank gap) {c : Char} (solid : isSpace c = false)
    (offset : Nat) (rest : List Char) :
    Cursor.skipSpace ⟨offset, gap ++ c :: rest⟩ = ⟨offset + gap.length, c :: rest⟩ := by
  change spacesFrom offset (gap ++ c :: rest) = _
  rw [spaces_from_blank blank, spacesFrom, if_neg (Bool.eq_false_iff.mp solid)]

theorem skip_blank_to_end {gap : List Char} (blank : Blank gap) (offset : Nat) :
    Cursor.skipSpace ⟨offset, gap⟩ = ⟨offset + gap.length, []⟩ := by
  change spacesFrom offset gap = _
  have skipped := spaces_from_blank blank offset []
  rwa [List.append_nil] at skipped

theorem skip_solid {c : Char} (solid : isSpace c = false) (offset : Nat) (rest : List Char) :
    Cursor.skipSpace ⟨offset, c :: rest⟩ = ⟨offset, c :: rest⟩ :=
  skip_blank blank_nil solid offset rest

theorem read_colon_after_blank {gap : List Char} (blank : Blank gap) (offset : Nat)
    (rest : List Char) :
    readColon ⟨offset, gap ++ ':' :: rest⟩ = .ok ⟨offset + gap.length + 1, rest⟩ := by
  unfold readColon
  rw [skip_blank blank (by decide)]
  rfl

end Retirement.Json
