import Retirement.RenderContract

/-!
Decoding the document of a timeline, as a renderer does. Every member is looked up by its name and
has to be of its kind, null stands for an artifact that was not made, and a row without a lane has no
member for it. What was encoded is decoded as it was.
-/

namespace Retirement

open Json (Value)
open Instruction (OpClass)

namespace Json.Value

/-- The value of the first member of an object with this name. -/
def member? (name : String) : Value → Option Value
  | object members => (members.find? fun member => member.1 == name).map Prod.snd
  | _ => none

def nat? : Value → Option Nat
  | number (.natural n) => some n
  | _ => none

def text? : Value → Option String
  | string s => some s
  | _ => none

def isObject : Value → Bool
  | object _ => true
  | _ => false

def list? {Item : Type} (decode : Value → Option Item) : Value → Option (List Item)
  | array items => items.mapM decode
  | _ => none

/-- A value that may be null. -/
def orNull? {Item : Type} (decode : Value → Option Item) : Value → Option (Option Item)
  | null => some none
  | value => (decode value).map some

def field? {Item : Type} (name : String) (decode : Value → Option Item) (value : Value) :
    Option Item :=
  (value.member? name).bind decode

def optionalField? {Item : Type} (name : String) (decode : Value → Option Item) (value : Value) :
    Option (Option Item) :=
  match value.member? name with
  | none => some none
  | some found => (decode found).map some

end Json.Value

def Instruction.OpClass.ofName? (name : String) : Option OpClass :=
  OpClass.all.find? fun c => c.name == name

theorem Instruction.OpClass.of_name_name (c : OpClass) : OpClass.ofName? c.name = some c := by
  cases c <;> decide

def Severity.ofName? (name : String) : Option Severity :=
  [Severity.error, .warning].find? fun severity => severity.name == name

theorem Severity.of_name_name (severity : Severity) : ofName? severity.name = some severity := by
  cases severity <;> decide

def named? {Item : Type} (ofName? : String → Option Item) (value : Value) : Option Item :=
  value.text?.bind ofName?

def RenderRow.decode? (value : Value) : Option RenderRow := do
  let programOrder ← value.field? "program_order" Value.nat?
  let unit ← value.field? "unit" (named? ExecUnit.ofName?)
  let lane ← value.optionalField? "lane" Value.nat?
  let startCycle ← value.field? "start_cycle" Value.nat?
  let endCycle ← value.field? "end_cycle" Value.nat?
  let mnemonic ← value.field? "mnemonic" Value.text?
  let opClass ← value.field? "class" (named? OpClass.ofName?)
  some ⟨programOrder, unit, lane, startCycle, endCycle, mnemonic, opClass⟩

def Span.decode? (value : Value) : Option Span := do
  some ⟨← value.field? "start" Value.nat?, ← value.field? "end" Value.nat?⟩

def Diagnostic.decode? (value : Value) : Option Diagnostic := do
  let severity ← value.field? "level" (named? Severity.ofName?)
  let code ← value.field? "code" (Value.orNull? (named? DiagnosticCode.ofName?))
  let row ← value.field? "row" (Value.orNull? Value.nat?)
  let span ← value.field? "span" (Value.orNull? Span.decode?)
  let message ← value.field? "message" Value.text?
  let hint ← value.field? "hint" (Value.orNull? Value.text?)
  some ⟨severity, code, row, span, message, hint⟩

def Edge.decode? (value : Value) : Option Edge := do
  let producer ← value.field? "producer" Value.nat?
  let consumer ← value.field? "consumer" Value.nat?
  let register ← value.field? "register" Value.text?
  some ⟨producer, consumer, register⟩

def UnitStats.decode? (value : Value) : Option UnitStats := do
  let taskCount ← value.field? "tasks" Value.nat?
  let laneCount ← value.field? "lanes" Value.nat?
  let peakOverlap ← value.field? "peak_overlap" Value.nat?
  some ⟨taskCount, laneCount, peakOverlap⟩

def LaneSummary.decode? (value : Value) : Option LaneSummary := do
  guard value.isObject
  let scalar ← value.optionalField? ExecUnit.scalar.name UnitStats.decode?
  let fp ← value.optionalField? ExecUnit.fp.name UnitStats.decode?
  let vector ← value.optionalField? ExecUnit.vector.name UnitStats.decode?
  some ⟨scalar, fp, vector⟩

structure Contract where
  tracked : List OpClass
  lanes : Option LaneSummary
  rows : List RenderRow
  edges : Option (List Edge)
  diagnostics : List Diagnostic
  deriving DecidableEq, Repr

def Contract.decode? (value : Value) : Option Contract := do
  let tracked ← value.field? "tracked" (Value.list? (named? OpClass.ofName?))
  let lanes ← value.field? "lanes" (Value.orNull? LaneSummary.decode?)
  let rows ← value.field? "tasks" (Value.list? RenderRow.decode?)
  let edges ← value.field? "edges" (Value.orNull? (Value.list? Edge.decode?))
  let diagnostics ← value.field? "diagnostics" (Value.list? Diagnostic.decode?)
  some ⟨tracked, lanes, rows, edges, diagnostics⟩

/-- What the document of a timeline tells, beside the provenance. -/
def Timeline.contract (timeline : Timeline) : Contract where
  tracked := timeline.tracked.toList
  lanes := timeline.lanes
  rows := timeline.renderRows
  edges := timeline.edges
  diagnostics := timeline.diagnostics

theorem decode_nat (n : Nat) : (Value.nat n).nat? = some n := rfl

theorem decode_text (s : String) : (Value.string s).text? = some s := rfl

section

variable {Item : Type} {encode : Item → Value} {decode : Value → Option Item}

theorem decode_list (roundtrip : ∀ item, decode (encode item) = some item) (items : List Item) :
    Value.list? decode (.array (items.map encode)) = some items := by
  rw [Value.list?]
  induction items with
  | nil => rfl
  | cons item items ih =>
      rw [List.map_cons, List.mapM_cons, roundtrip, ih]
      rfl

/-- A decoder that refuses null can be used where null stands for nothing. -/
theorem decode_or_null (strict : decode .null = none)
    (roundtrip : ∀ item, decode (encode item) = some item) (item : Option Item) :
    Value.orNull? decode (.ofOption encode item) = some item := by
  cases item with
  | none => rfl
  | some item =>
      rw [Value.ofOption]
      unfold Value.orNull?
      split
      case h_1 null =>
        have impossible := roundtrip item
        rw [null, strict] at impossible
        contradiction
      case h_2 => rw [roundtrip, Option.map_some]

end

theorem decode_name {Item : Type} {ofName? : String → Option Item} {name : Item → String}
    (roundtrip : ∀ item, ofName? (name item) = some item) (item : Item) :
    named? ofName? (.string (name item)) = some item := roundtrip item

theorem decode_render_row (row : RenderRow) : RenderRow.decode? row.value = some row := by
  obtain ⟨programOrder, unit, lane, startCycle, endCycle, mnemonic, opClass⟩ := row
  have members : RenderRow.decode? (RenderRow.value
      ⟨programOrder, unit, lane, startCycle, endCycle, mnemonic, opClass⟩) =
      (do
        let unit ← named? ExecUnit.ofName? (.string unit.name)
        let opClass ← named? OpClass.ofName? (.string opClass.name)
        some ⟨programOrder, unit, lane, startCycle, endCycle, mnemonic, opClass⟩) := by
    cases lane <;> rfl
  rw [members, decode_name ExecUnit.of_name_name, decode_name OpClass.of_name_name]
  rfl

theorem decode_span (span : Span) : Span.decode? span.value = some span := rfl

theorem decode_edge (edge : Edge) : Edge.decode? edge.value = some edge := rfl

theorem decode_diagnostic (d : Diagnostic) : Diagnostic.decode? d.value = some d := by
  obtain ⟨severity, code, row, span, message, hint⟩ := d
  have members : Diagnostic.decode? (Diagnostic.value
      ⟨severity, code, row, span, message, hint⟩) =
      (do
        let severity ← named? Severity.ofName? (.string severity.name)
        let code ← Value.orNull? (named? DiagnosticCode.ofName?)
          (.ofOption (fun code => .string code.name) code)
        let row ← Value.orNull? Value.nat? (.ofOption .nat row)
        let span ← Value.orNull? Span.decode? (.ofOption Span.value span)
        let hint ← Value.orNull? Value.text? (.ofOption .string hint)
        some ⟨severity, code, row, span, message, hint⟩) := rfl
  rw [members, decode_name Severity.of_name_name,
    decode_or_null rfl (decode_name DiagnosticCode.of_name_name),
    decode_or_null rfl decode_nat, decode_or_null rfl decode_span, decode_or_null rfl decode_text]
  rfl

theorem decode_summary (summary : LaneSummary) :
    LaneSummary.decode? summary.value = some summary := by
  obtain ⟨scalar, fp, vector⟩ := summary
  cases scalar <;> cases fp <;> cases vector <;> rfl

theorem decode_contract (timeline : Timeline) (provenance : Provenance) :
    Contract.decode? (timeline.value provenance) = some timeline.contract := by
  have members : Contract.decode? (timeline.value provenance) =
      (do
        let tracked ← Value.list? (named? OpClass.ofName?)
          (.array (timeline.tracked.toList.map fun c => .string c.name))
        let lanes ← Value.orNull? LaneSummary.decode?
          (.ofOption LaneSummary.value timeline.lanes)
        let rows ← Value.list? RenderRow.decode? (.array (timeline.renderRows.map RenderRow.value))
        let edges ← Value.orNull? (Value.list? Edge.decode?)
          (.ofOption (fun edges => .array (edges.map Edge.value)) timeline.edges)
        let diagnostics ← Value.list? Diagnostic.decode?
          (.array (timeline.diagnostics.map Diagnostic.value))
        some ⟨tracked, lanes, rows, edges, diagnostics⟩) := rfl
  rw [members, decode_list (decode_name OpClass.of_name_name), decode_or_null rfl decode_summary,
    decode_list decode_render_row, decode_or_null rfl (decode_list decode_edge),
    decode_list decode_diagnostic]
  rfl

/-- Null stands for nothing, and for nothing else. -/
theorem null_iff_absent {Item : Type} {encode : Item → Value}
    (filled : ∀ item, encode item ≠ .null) (item : Option Item) :
    some (Value.ofOption encode item) = some .null ↔ item = none := by
  rw [Option.some.injEq]
  cases item with
  | none => exact iff_of_true rfl rfl
  | some item => exact iff_of_false (filled item) (Option.some_ne_none item)

theorem lane_member_iff (row : RenderRow) :
    (row.value.member? "lane").isSome = row.lane.isSome := by
  obtain ⟨programOrder, unit, lane, startCycle, endCycle, mnemonic, opClass⟩ := row
  cases lane with
  | none => rfl
  | some lane => rfl

/-- The value is decoded as what the timeline tells. It has null for an artifact exactly if that was
not made, and a row has a lane's member exactly if its task has a lane. -/
structure Timeline.ToldBy (timeline : Timeline) (value : Value) : Prop where
  decoded : Contract.decode? value = some timeline.contract
  lanes : value.member? "lanes" = some .null ↔ timeline.lanes = none
  edges : value.member? "edges" = some .null ↔ timeline.edges = none
  laneMembers : ∃ items, value.member? "tasks" = some (.array items) ∧
    (items.map fun item => (item.member? "lane").isSome) =
      timeline.tasks.map fun task => task.lane.isSome

/-- Nothing that the contract tells is lost in the document. -/
theorem value_tells_timeline (timeline : Timeline) (provenance : Provenance) :
    timeline.ToldBy (timeline.value provenance) where
  decoded := decode_contract timeline provenance
  lanes := null_iff_absent (fun _ => Value.noConfusion) timeline.lanes
  edges := null_iff_absent (fun _ => Value.noConfusion) timeline.edges
  laneMembers := by
    refine ⟨timeline.renderRows.map RenderRow.value, rfl, ?_⟩
    rw [Timeline.renderRows, List.map_map, List.map_map]
    apply congrArg (List.map · timeline.tasks)
    funext task
    exact lane_member_iff (.ofTask task)

end Retirement
