import Retirement.Proofs.Addresses
import Retirement.Proofs.Dependency.Order
import Retirement.Proofs.RenderContract.Documents
import Retirement.Proofs.Statistics
import Retirement.Proofs.Task.Locations

/-!
What the render contract keeps. Every document is read back as what the timeline tells. The rows in
the document of a run are a trace as well: it is loaded as the rows of the run without their
addresses, and running over these gives the same lanes and edges.
-/

namespace Retirement

open Json

/-- Rows as a machine can hold them: their numbers, the lengths of their texts and the number of rows
are words. -/
structure RowsFit (rows : List Row) : Prop where
  each : ∀ row ∈ rows, row.Fits
  texts : ∀ row ∈ rows, Text.byteLength row.mnemonic.toList ≤ Text.maxWord
  count : rows.length ≤ Text.maxWord

theorem unit_stats_fit {tasks : List Task} (count : tasks.length ≤ Text.maxWord) (u : ExecUnit) :
    (unitStats u tasks).Fits := by
  have taskCount : (unitIntervals u tasks).length ≤ Text.maxWord := by
    rw [unit_intervals_length]
    exact (List.length_filter_le _ tasks).trans count
  have laneCount := (lane_count_le_length (unitIntervals u tasks)).trans taskCount
  exact ⟨taskCount, laneCount, (peak_le_lane_count (unitIntervals u tasks)).trans laneCount⟩

theorem allocated_lane_fits {tasks : List Task} (count : tasks.length ≤ Text.maxWord) {task : Task}
    (member : task ∈ (allocateLanes tasks).1) {lane : Nat} (given : task.lane = some lane) :
    lane ≤ Text.maxWord := by
  have inUnit : task ∈ unitTasks task.unit (allocateLanes tasks).1 :=
    List.mem_filter.mpr ⟨member, decide_eq_true rfl⟩
  have used := (allocated_lane_iff task.unit tasks lane).mp ⟨task, inUnit, given⟩
  exact used.le.trans (unit_stats_fit count task.unit).laneCount

theorem resolved_edge_fits {tracked : Instruction.ClassSet} {tasks : List Task}
    (count : tasks.length ≤ Text.maxWord) (numbered : Numbered tasks)
    (wellRead : ∀ task ∈ tasks, task.WellRead) {edge : Edge}
    (member : edge ∈ resolveDependencies tracked tasks) : edge.Fits := by
  obtain ⟨_, _, producer, consumer, _⟩ := resolved_edge_ends numbered wellRead member
  have producerBelow := (List.getElem?_eq_some_iff.mp producer).1
  have consumerBelow := (List.getElem?_eq_some_iff.mp consumer).1
  exact ⟨producerBelow.le.trans count, consumerBelow.le.trans count⟩

namespace Timeline

section

variable {rows : List Row} (fits : RowsFit rows) (options : Options)

include fits

theorem complete_render_row_fits {row : RenderRow}
    (member : row ∈ (complete rows options).renderRows) : row.Fits := by
  obtain ⟨task, isTask, rfl⟩ := List.mem_map.mp member
  rw [complete_tasks] at isTask
  obtain ⟨original, isBuilt, same⟩ := original_of_unlaned_eq (allocated_unlaned _) isTask
  obtain ⟨position, source, isRow, rfl⟩ := row_of_built_task isBuilt
  have sameId : position = task.id := congrArg Task.id same
  have sameRow : source = task.row := congrArg Task.row same
  have count : (buildTasks options.checkOrder rows).tasks.length ≤ Text.maxWord := by
    rw [build_tasks_length]
    exact fits.count
  have below : task.id < rows.length := sameId ▸ (List.getElem?_eq_some_iff.mp isRow).1
  have rowFits : task.row.Fits := sameRow ▸ fits.each source (List.mem_of_getElem? isRow)
  exact
    { programOrder := below.le.trans fits.count
      lane := fun lane given => allocated_lane_fits count isTask given
      startCycle := rowFits.startCycle
      endCycle := rowFits.endCycle }

theorem built_diagnostic_fits {d : Diagnostic}
    (member : d ∈ (buildTasks options.checkOrder rows).diagnostics) : d.Fits := by
  obtain ⟨index, row, named, isRow, within⟩ := build_diagnostic_located options.checkOrder rows member
  have below := (List.getElem?_eq_some_iff.mp isRow).1
  have textFits := fits.texts row (List.mem_of_getElem? isRow)
  constructor
  · intro given isNamed
    rw [named] at isNamed
    obtain rfl := Option.some.inj isNamed
    exact below.le.trans fits.count
  · intro span given
    have stop := (within span given).inside.trans textFits
    exact ⟨(within span given).ordered.trans stop, stop⟩

theorem complete_fits : (complete rows options).Fits := by
  have count : (buildTasks options.checkOrder rows).tasks.length ≤ Text.maxWord := by
    rw [build_tasks_length]
    exact fits.count
  constructor
  · intro row member
    exact complete_render_row_fits fits options member
  · intro summary made u stats present
    obtain rfl := Option.some.inj made
    rw [allocated_stats] at present
    obtain rfl := Option.some.inj present
    exact unit_stats_fit count u
  · intro edges made edge member
    obtain rfl := Option.some.inj made
    exact resolved_edge_fits count (build_tasks_numbered _ rows) (built_tasks_well_read _ rows) member
  · intro d member
    exact built_diagnostic_fits fits options member

end

/-- The rows that a document tells are those of the run, without their addresses. -/
theorem complete_render_rows (rows : List Row) (options : Options) :
    (complete rows options).renderRows.map RenderRow.row = rows.map Row.unaddressed := by
  have kept : (complete rows options).tasks.map Task.row = rows := by
    rw [complete_tasks, allocated_rows, built_rows]
  calc
    (complete rows options).renderRows.map RenderRow.row =
        ((complete rows options).tasks.map Task.row).map Row.unaddressed := by
      rw [renderRows, List.map_map, List.map_map]
      rfl
    _ = rows.map Row.unaddressed := by rw [kept]

/-- The contract is lossless. The document of any timeline is one JSON value and a line feed, and
reading it gives back all that it tells: the tracked classes, the statistics, the rows, the edges and
the diagnostics, with null for an artifact that was not made and a lane just for the tasks that have
one. If the timeline is that of a run, then its rows are also a trace. Loading any text of them, with
blanks or without, gives the rows of the run as they were but for their addresses; a run over these
gives the tasks the same lanes, and has the same statistics and edges. -/
theorem contract_is_lossless (provenance : Provenance) :
    (∀ timeline : Timeline, timeline.Fits →
      ∃ text value, (timeline.document provenance).toList = text ++ ['\n'] ∧ WellFormed text ∧
        readDocument (timeline.document provenance).toList = .ok value ∧
        timeline.ToldBy value) ∧
    ∀ (rows : List Row) (options : Options) (timeline : Timeline), RowsFit rows →
      runAll rows options = .ok timeline →
      ∃ value items, readDocument (timeline.document provenance).toList = .ok value ∧
        timeline.ToldBy value ∧ value.member? "tasks" = some (.array items) ∧
        (∀ text : String, DocumentText (.array items) text.toList ∨
            text = String.ofList (Value.array items).compact ∨
            text = String.ofList ((Value.array items).pretty 0) →
          Trace.load text = .ok (rows.map Row.unaddressed)) ∧
        ∀ checkOrder, ∃ again,
          runAll (rows.map Row.unaddressed) ⟨options.tracked, checkOrder⟩ = .ok again ∧
            again.tasks.map Task.lane = timeline.tasks.map Task.lane ∧
            again.lanes = timeline.lanes ∧ again.edges = timeline.edges := by
  constructor
  · intro timeline fits
    obtain ⟨text, letters, formed, read⟩ := document_reads fits provenance
    exact ⟨text, _, letters, formed, read, value_tells_timeline timeline provenance⟩
  · intro rows options timeline rowsFit finished
    obtain ⟨_, rfl⟩ := run_all_eq_ok_iff.mp finished
    have fits := complete_fits rowsFit options
    obtain ⟨_, _, _, read⟩ := document_reads fits provenance
    refine ⟨_, _, read, value_tells_timeline _ provenance, rfl, ?_, ?_⟩
    · intro text spelled
      rw [← complete_render_rows rows options]
      apply render_rows_load fits.rows
      rcases spelled with written | rfl | rfl
      · exact written
      · rw [String.toList_ofList]
        exact render_rows_printed compact_prints fits.rows
      · rw [String.toList_ofList]
        exact render_rows_printed pretty_prints fits.rows
    · intro checkOrder
      obtain ⟨again, runs, tasks, lanes, edges⟩ := run_without_addresses finished checkOrder
      refine ⟨again, runs, ?_, lanes, edges⟩
      rw [tasks, List.map_map]
      rfl

/-- A timeline that no run makes, with characters that have to be escaped and a span that is
inverted; then the rows of a run, whose addresses are gone when they are loaded again. -/
theorem document_of_odd_timeline :
    let odd : Timeline :=
      { tasks := [⟨7, ⟨"é\"\\\n\x01😀", .vector, 3, 2, some 5⟩, "", .indexedLoad, none, [], some 4⟩]
        lanes := none
        edges := some [⟨9, 0, "\t"⟩]
        tracked := .all
        diagnostics := [⟨.error, none, some 2, some ⟨3, 1⟩, "/", some "\x7f"⟩] }
    let rows : List Row :=
      [⟨"flw ft0,0(a0)", .fp, 0, 3, some 8⟩, ⟨"vfmacc.vf v0,ft0,v1", .vector, 3, 7, some 12⟩]
    let loaded : List Row :=
      [⟨"flw ft0,0(a0)", .fp, 0, 3, none⟩, ⟨"vfmacc.vf v0,ft0,v1", .vector, 3, 7, none⟩]
    let provenance : Provenance := ⟨[0, 255], "0.2.1"⟩
    (∃ value, readDocument (odd.document provenance).toList = .ok value ∧
        Contract.decode? value = some odd.contract ∧ value.member? "lanes" = some .null ∧
        value.member? "edges" ≠ some .null) ∧
      ∃ timeline items again, runAll rows ⟨.all, true⟩ = .ok timeline ∧
        Trace.load (String.ofList (Value.array items).compact) = .ok loaded ∧
        runAll loaded ⟨.all, true⟩ = .ok again ∧ again.edges = timeline.edges := by
  intro odd rows loaded provenance
  obtain ⟨told, kept⟩ := contract_is_lossless provenance
  constructor
  · have fits : odd.Fits :=
      { rows := List.forall_mem_singleton.mpr ⟨by decide, by decide, by decide, by decide⟩
        lanes := nofun
        edges := by
          intro edges made
          obtain rfl := Option.some.inj made
          exact List.forall_mem_singleton.mpr ⟨by decide, by decide⟩
        diagnostics := by
          have inverted : ∀ span ∈ some (Span.mk 3 1), span.Fits := by
            intro span given
            obtain rfl := Option.some.inj given
            exact ⟨by decide, by decide⟩
          exact List.forall_mem_singleton.mpr ⟨by decide, inverted⟩ }
    obtain ⟨_, value, _, _, read, tells⟩ := told odd fits
    have edges : odd.edges ≠ none := Option.some_ne_none _
    exact ⟨value, read, tells.decoded, tells.lanes.mpr rfl, edges ∘ tells.edges.mp⟩
  · have fits : RowsFit rows :=
      { each := by
          simp only [rows, List.forall_mem_cons]
          exact ⟨⟨by decide, by decide, by decide⟩, ⟨by decide, by decide, by decide⟩, nofun⟩
        texts := by decide
        count := by decide }
    have finished : runAll rows ⟨.all, true⟩ = .ok (complete rows ⟨.all, true⟩) :=
      run_all_eq_ok_iff.mpr ⟨by decide, rfl⟩
    obtain ⟨_, items, _, _, _, loads, runs⟩ := kept rows _ _ fits finished
    obtain ⟨again, rerun, _, _, edges⟩ := runs true
    exact ⟨_, items, again, finished, loads _ (Or.inr (Or.inl rfl)), rerun, edges⟩

end Timeline

end Retirement
