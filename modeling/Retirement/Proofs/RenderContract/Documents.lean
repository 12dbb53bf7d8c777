import Retirement.Proofs.Json.Documents
import Retirement.Proofs.ProgramOrder
import Retirement.Proofs.RenderContract.Decoding

/-!
The text of a render contract. It is one JSON value and a line feed, and is read as the value that was
printed. The members of a render row go by the names of a trace row's fields, or by names that are no
field's; so whatever text tells render rows is also the text of a trace.
-/

namespace Retirement

open Json

/-! The numbers of a contract are words. -/

structure Span.Fits (span : Span) : Prop where
  start : span.start ≤ Text.maxWord
  stop : span.stop ≤ Text.maxWord

structure Diagnostic.Fits (d : Diagnostic) : Prop where
  row : ∀ row ∈ d.row, row ≤ Text.maxWord
  span : ∀ span ∈ d.span, span.Fits

structure Edge.Fits (edge : Edge) : Prop where
  producer : edge.producer ≤ Text.maxWord
  consumer : edge.consumer ≤ Text.maxWord

structure UnitStats.Fits (stats : UnitStats) : Prop where
  taskCount : stats.taskCount ≤ Text.maxWord
  laneCount : stats.laneCount ≤ Text.maxWord
  peakOverlap : stats.peakOverlap ≤ Text.maxWord

def LaneSummary.Fits (summary : LaneSummary) : Prop := ∀ u, ∀ stats ∈ summary.get u, stats.Fits

structure RenderRow.Fits (row : RenderRow) : Prop where
  programOrder : row.programOrder ≤ Text.maxWord
  lane : ∀ lane ∈ row.lane, lane ≤ Text.maxWord
  startCycle : row.startCycle ≤ Text.maxWord
  endCycle : row.endCycle ≤ Text.maxWord

structure Timeline.Fits (timeline : Timeline) : Prop where
  rows : ∀ row ∈ timeline.renderRows, row.Fits
  lanes : ∀ summary ∈ timeline.lanes, summary.Fits
  edges : ∀ edges ∈ timeline.edges, ∀ edge ∈ edges, edge.Fits
  diagnostics : ∀ d ∈ timeline.diagnostics, d.Fits

section

variable {Item : Type} {encode : Item → Value} {depth : Nat}

theorem plain_option {item : Option Item} (plain : ∀ a ∈ item, Plain depth (encode a)) :
    Plain depth (.ofOption encode item) := by
  cases item with
  | none => exact .null
  | some a => exact plain a rfl

theorem plain_list {items : List Item} (plain : ∀ item ∈ items, Plain depth (encode item)) :
    Plain (depth + 1) (.array (items.map encode)) := by
  apply Plain.array
  exact List.forall_mem_map.mpr plain

end

theorem span_plain {span : Span} (fits : span.Fits) (depth : Nat) :
    Plain (depth + 1) span.value := by
  apply Plain.object
  simp only [List.forall_mem_cons]
  exact ⟨.natural fits.stop, .natural fits.start, nofun⟩

theorem diagnostic_plain {d : Diagnostic} (fits : d.Fits) (depth : Nat) :
    Plain (depth + 2) d.value := by
  have code : Plain (depth + 1) (.ofOption (fun code => .string code.name) d.code) :=
    plain_option fun code _ => .string code.name
  have hint : Plain (depth + 1) (.ofOption .string d.hint) := plain_option fun hint _ => .string hint
  have row : Plain (depth + 1) (.ofOption .nat d.row) :=
    plain_option fun row named => .natural (fits.row row named)
  have span : Plain (depth + 1) (.ofOption Span.value d.span) :=
    plain_option fun span given => span_plain (fits.span span given) depth
  apply Plain.object
  simp only [List.forall_mem_cons]
  exact ⟨code, hint, .string _, .string _, row, span, nofun⟩

theorem edge_plain {edge : Edge} (fits : edge.Fits) (depth : Nat) :
    Plain (depth + 1) edge.value := by
  apply Plain.object
  simp only [List.forall_mem_cons]
  exact ⟨.natural fits.consumer, .natural fits.producer, .string _, nofun⟩

theorem stats_plain {stats : UnitStats} (fits : stats.Fits) (depth : Nat) :
    Plain (depth + 1) stats.value := by
  apply Plain.object
  simp only [List.forall_mem_cons]
  exact ⟨.natural fits.laneCount, .natural fits.peakOverlap, .natural fits.taskCount, nofun⟩

theorem summary_plain {summary : LaneSummary} (fits : summary.Fits) (depth : Nat) :
    Plain (depth + 2) summary.value := by
  apply Plain.object
  intro member listed
  obtain ⟨u, _, given⟩ := List.mem_filterMap.mp listed
  obtain ⟨stats, present, rfl⟩ := Option.map_eq_some_iff.mp given
  exact stats_plain (fits u stats present) depth

inductive RenderRow.HasMember (row : RenderRow) : String × Value → Prop
  | opClass : HasMember row ("class", .string row.opClass.name)
  | endCycle : HasMember row ("end_cycle", .nat row.endCycle)
  | lane {lane : Nat} (given : row.lane = some lane) : HasMember row ("lane", .nat lane)
  | mnemonic : HasMember row ("mnemonic", .string row.mnemonic)
  | programOrder : HasMember row ("program_order", .nat row.programOrder)
  | startCycle : HasMember row ("start_cycle", .nat row.startCycle)
  | unit : HasMember row ("unit", .string row.unit.name)

def RenderRow.memberNames (row : RenderRow) : List String :=
  ["class", "end_cycle"] ++ (if row.lane.isSome then ["lane"] else []) ++
    ["mnemonic", "program_order", "start_cycle", "unit"]

theorem render_row_members (row : RenderRow) :
    ∃ members, row.value = .object members ∧ (∀ member ∈ members, row.HasMember member) ∧
      members.map Prod.fst = row.memberNames := by
  obtain ⟨programOrder, unit, lane, startCycle, endCycle, mnemonic, opClass⟩ := row
  cases lane with
  | none =>
      refine ⟨_, rfl, ?_, rfl⟩
      simp only [List.append_nil, List.forall_mem_append, List.forall_mem_cons]
      exact ⟨⟨.opClass, .endCycle, nofun⟩, .mnemonic, .programOrder, .startCycle, .unit, nofun⟩
  | some lane =>
      refine ⟨_, rfl, ?_, rfl⟩
      simp only [List.forall_mem_append, List.forall_mem_cons]
      exact ⟨⟨⟨.opClass, .endCycle, nofun⟩, .lane rfl, nofun⟩,
        .mnemonic, .programOrder, .startCycle, .unit, nofun⟩

/-- Four of the names are those of a trace row's fields, and the others are no field's. -/
theorem member_name_fields (row : RenderRow) :
    row.memberNames.filterMap Trace.Field.ofName? =
      [.endCycle, .mnemonic, .startCycle, .unit] := by
  rw [RenderRow.memberNames]
  cases row.lane.isSome <;> decide

theorem render_row_plain {row : RenderRow} (fits : row.Fits) (depth : Nat) :
    Plain (depth + 1) row.value := by
  obtain ⟨members, same, has, _⟩ := render_row_members row
  rw [same]
  apply Plain.object
  intro member isMember
  cases has member isMember with
  | opClass => exact .string _
  | endCycle => exact .natural fits.endCycle
  | @lane lane given => exact .natural (fits.lane lane given)
  | mnemonic => exact .string _
  | programOrder => exact .natural fits.programOrder
  | startCycle => exact .natural fits.startCycle
  | unit => exact .string _

theorem render_rows_plain {rows : List RenderRow} (fits : ∀ row ∈ rows, row.Fits) (depth : Nat) :
    Plain (depth + 2) (.array (rows.map RenderRow.value)) :=
  plain_list fun row member => render_row_plain (fits row member) depth

theorem render_rows_printed {print : Nat → Value → List Char} (prints : Prints print)
    {rows : List RenderRow} (fits : ∀ row ∈ rows, row.Fits) :
    DocumentText (.array (rows.map RenderRow.value)) (print 0 (.array (rows.map RenderRow.value))) := by
  have plain : Plain deepest (.array (rows.map RenderRow.value)) := render_rows_plain fits 125
  exact document_text_of_value (printed_value_text prints plain 0)

theorem timeline_plain {timeline : Timeline} (fits : timeline.Fits) (provenance : Provenance)
    (depth : Nat) : Plain (depth + 4) (timeline.value provenance) := by
  have diagnostics : Plain (depth + 3) (.array (timeline.diagnostics.map Diagnostic.value)) :=
    plain_list fun d member => diagnostic_plain (fits.diagnostics d member) depth
  have edges : Plain (depth + 3)
      (.ofOption (fun edges => .array (edges.map Edge.value)) timeline.edges) :=
    plain_option fun edges made => plain_list fun edge member =>
      edge_plain (fits.edges edges made edge member) (depth + 1)
  have lanes : Plain (depth + 3) (.ofOption LaneSummary.value timeline.lanes) :=
    plain_option fun summary made => summary_plain (fits.lanes summary made) (depth + 1)
  have source : Plain (depth + 3) provenance.value := by
    apply Plain.object
    simp only [List.forall_mem_cons]
    exact ⟨.string _, .string _, nofun⟩
  have tracked : Plain (depth + 3)
      (.array (timeline.tracked.toList.map fun c => .string c.name)) :=
    plain_list fun c _ => .string c.name
  apply Plain.object
  simp only [List.forall_mem_cons]
  exact ⟨diagnostics, edges, lanes, source, render_rows_plain fits.rows (depth + 1), tracked, nofun⟩

/-- The document of a timeline is the text of one value, with a line feed after it, and is read as
that value. -/
theorem Timeline.document_reads {timeline : Timeline} (fits : timeline.Fits)
    (provenance : Provenance) :
    ∃ text, (timeline.document provenance).toList = text ++ ['\n'] ∧ WellFormed text ∧
      readDocument (timeline.document provenance).toList = .ok (timeline.value provenance) := by
  have plain : Plain deepest (timeline.value provenance) := timeline_plain fits provenance 123
  have written := printed_value_text pretty_prints plain 0
  have letters : (timeline.document provenance).toList =
      (timeline.value provenance).pretty 0 ++ ['\n'] := by
    rw [document, String.toList_ofList, Json.document]
  have lineFeed : Blank ['\n'] := List.forall_mem_singleton.mpr (by decide)
  refine ⟨_, letters, written.well_formed, ?_⟩
  apply read_document_text
  exact ⟨[], _, _, letters, blank_nil, lineFeed, written⟩

/-- The trace row that a render row tells: an address is not among its members. -/
def RenderRow.row (row : RenderRow) : Row where
  mnemonic := row.mnemonic
  unit := row.unit
  startCycle := row.startCycle
  endCycle := row.endCycle
  pc := none

theorem RenderRow.Fits.row_fits {row : RenderRow} (fits : row.Fits) : row.row.Fits where
  startCycle := fits.startCycle
  endCycle := fits.endCycle
  pc := nofun

section

open Trace

/-- A member of a render row tells a field of the trace row, or is none of its fields. -/
theorem render_member_tells {row : RenderRow} {name : String} {value : Value}
    (has : row.HasMember (name, value)) {depth : Nat} {text : List Char}
    (written : ValueText depth value text) : Tells row.row (name, text) := by
  cases has with
  | opClass => exact .extra (of_name_eq_none_iff.mp (by decide)) written.well_formed
  | lane => exact .extra (of_name_eq_none_iff.mp (by decide)) written.well_formed
  | programOrder => exact .extra (of_name_eq_none_iff.mp (by decide)) written.well_formed
  | endCycle => exact .field (show Field.endCycle.Named _ from Or.inl rfl) written.integer
  | startCycle => exact .field (show Field.startCycle.Named _ from Or.inl rfl) written.integer
  | mnemonic => exact .field (show Field.mnemonic.Named _ from Or.inl rfl) written.spelled
  | unit => exact .field (show Field.unit.Named _ from Or.inl rfl) written.spelled

theorem render_row_text {row : RenderRow} {depth : Nat} {text : List Char}
    (written : ValueText depth row.value text) : RowText row.row text := by
  obtain ⟨members, same, has, named⟩ := render_row_members row
  rw [same] at written
  obtain ⟨inner, object, each⟩ := written.members
  have names : (inner.filterMap fun member => Field.ofName? member.1) =
      [.endCycle, .mnemonic, .startCycle, .unit] := by
    rw [← member_name_fields row, ← named, ← names_of_members each, List.filterMap_map]
    rfl
  refine ⟨inner, object, ?_, ?_, ?_⟩
  · intro other isMember
    obtain ⟨member, isTold, sameName, _, isText⟩ := exists_related each isMember
    have tells := render_member_tells (has member isTold) isText
    rwa [← sameName] at tells
  · rw [once_iff_nodup, names]
    decide
  · intro field needed
    rw [meets_iff_mem, names]
    cases field with
    | pc => exact absurd rfl (needed.resolve_left (not_not.mpr rfl))
    | _ => decide

/-- Whatever text tells render rows is a text of trace rows. -/
theorem render_rows_text {rows : List RenderRow} {depth : Nat} {text : List Char}
    (written : ValueText depth (.array (rows.map RenderRow.value)) text) :
    ArrayText RowText (rows.map RenderRow.row) text := by
  cases written with
  | array layout inner =>
      apply Enclosed.map
      apply Enclosed.imp _ (Enclosed.of_map layout)
      intro row member text item
      apply item.imp
      intro rowText rowWritten
      exact render_row_text (inner row.value (List.mem_map_of_mem member) rowText rowWritten)

/-- Render rows are loaded as the trace rows that they tell, in their own order. -/
theorem render_rows_load {rows : List RenderRow} (fits : ∀ row ∈ rows, row.Fits) {text : String}
    (written : DocumentText (.array (rows.map RenderRow.value)) text.toList) :
    load text = .ok (rows.map RenderRow.row) := by
  obtain ⟨before, inner, after, same, blankBefore, blankAfter, isText⟩ := written
  have listed : ListText RowText (rows.map RenderRow.row) text.toList :=
    ⟨before, inner, after, same, blankBefore, blankAfter, render_rows_text isText⟩
  have fit : ∀ row ∈ rows.map RenderRow.row, row.Fits :=
    List.forall_mem_map.mpr fun row member => (fits row member).row_fits
  have nowhere : ∀ row ∈ rows.map RenderRow.row, row.pc = none :=
    List.forall_mem_map.mpr fun _ _ => rfl
  rw [load_of_text fit listed, program_order_without_addresses nowhere]

end

end Retirement
