import Retirement.Proofs.Command.ExitCodes
import Retirement.Proofs.Task.Registers

/-!
Reading a listing of edges back. Every edge is on a line of its own, and its register is one word, so
that the parenthesis behind it is where the register ends. Edges are therefore told apart by their
lines, even though the alphabet of words has dashes, arrow heads and digits.
-/

namespace Retirement

open Instruction (IsWord isWordChar)
open Text (lineFeeds linesOf)

def readId? : List Char → Option (Nat × List Char)
  | '#' :: letters =>
      let digits := letters.takeWhile Char.isDigit
      if digits = [] then none
      else some (Nat.ofDigitChars 10 digits 0, letters.dropWhile Char.isDigit)
  | _ => none

theorem read_id_display (id : Nat) {next : Char} (ends : next.isDigit = false)
    (rest : List Char) :
    readId? ((displayId id).toList ++ next :: rest) = some (id, next :: rest) := by
  have written : (displayId id).toList = '#' :: Nat.toDigits 10 id := by
    rw [displayId, String.toList_append]
    exact congrArg (List.cons '#') Nat.toList_repr
  have digits : ∀ c ∈ Nat.toDigits 10 id, c.isDigit = true := fun c member =>
    Nat.isDigit_of_mem_toDigits (by decide) (by decide) member
  have stops : ¬ next.isDigit = true := Bool.eq_false_iff.mp ends
  have taken : (Nat.toDigits 10 id ++ next :: rest).takeWhile Char.isDigit =
      Nat.toDigits 10 id := by
    rw [List.takeWhile_append_of_pos digits, List.takeWhile_cons_of_neg stops, List.append_nil]
  have left : (Nat.toDigits 10 id ++ next :: rest).dropWhile Char.isDigit = next :: rest := by
    rw [List.dropWhile_append_of_pos digits, List.dropWhile_cons_of_neg stops]
  rw [written, List.cons_append, readId?, taken, left, Nat.ofDigitChars_ten_toDigits]
  exact if_neg Nat.toDigits_ne_nil

namespace Edge

def ofLine? (line : String) : Option Edge := do
  let (producer, afterProducer) ← readId? line.toList
  let beforeConsumer ← " -> ".toList.isPrefixOf? afterProducer
  let (consumer, afterConsumer) ← readId? beforeConsumer
  let letters ← " (".toList.isPrefixOf? afterConsumer
  let word := letters.takeWhile isWordChar
  if word ≠ [] ∧ letters.dropWhile isWordChar = [')'] then
    some ⟨producer, consumer, String.ofList word⟩
  else none

theorem display_eq (edge : Edge) :
    edge.display = "#" ++ toString edge.producer ++ " -> #" ++ toString edge.consumer ++
      " (" ++ edge.register ++ ")" := by
  have arrow : " -> #" = " -> " ++ "#" := rfl
  simp only [display, displayId, arrow, String.append_assoc]

theorem letters_after_mark (mark letters : List Char) :
    mark.isPrefixOf? (mark ++ letters) = some letters :=
  List.isPrefixOf?_eq_some_iff_append_eq.mpr rfl

theorem of_line_display {edge : Edge} (isWord : IsWord edge.register) :
    ofLine? edge.display = some edge := by
  let letters := edge.register.toList ++ [')']
  let beforeConsumer := (displayId edge.consumer).toList ++ (" (".toList ++ letters)
  have written : edge.display.toList =
      (displayId edge.producer).toList ++ (" -> ".toList ++ beforeConsumer) := by
    simp only [display, String.toList_append, List.append_assoc, beforeConsumer, letters]
    rfl
  have producer : readId? edge.display.toList =
      some (edge.producer, " -> ".toList ++ beforeConsumer) := by
    rw [written]
    exact read_id_display edge.producer rfl _
  have consumer : readId? beforeConsumer = some (edge.consumer, " (".toList ++ letters) :=
    read_id_display edge.consumer rfl _
  -- No parenthesis is in the alphabet, so that the word ends right before the one behind it.
  have taken : letters.takeWhile isWordChar = edge.register.toList := by
    rw [List.takeWhile_append_of_pos isWord.2]
    exact List.append_nil _
  have left : letters.dropWhile isWordChar = [')'] := by
    rw [List.dropWhile_append_of_pos isWord.2]
    rfl
  simp only [ofLine?, producer, letters_after_mark, consumer, taken, left, Option.bind_eq_bind,
    Option.bind_some, String.ofList_toList]
  exact if_pos ⟨isWord.1, trivial⟩

theorem line_feeds_of_display {edge : Edge} (isWord : IsWord edge.register) :
    lineFeeds edge.display = 0 := by
  simp only [display, displayId, Text.line_feeds_append, Text.line_feeds_of_number,
    isWord.on_one_line]
  rfl

end Edge

def readEdgeListing (listing : String) : Option (List Edge) := (linesOf listing).mapM Edge.ofLine?

section

variable {edges : List Edge} (words : ∀ edge ∈ edges, IsWord edge.register)

include words

theorem lines_of_edge_listing :
    linesOf (Command.lines (edges.map Edge.display)) = edges.map Edge.display :=
  Text.lines_of_single_lines
    (List.forall_mem_map.mpr fun edge member => Edge.line_feeds_of_display (words edge member))

theorem read_edge_listing :
    readEdgeListing (Command.lines (edges.map Edge.display)) = some edges := by
  rw [readEdgeListing, lines_of_edge_listing words]
  induction edges with
  | nil => rfl
  | cons edge edges ih =>
      obtain ⟨isWord, later⟩ := List.forall_mem_cons.mp words
      rw [List.map_cons, List.mapM_cons, Edge.of_line_display isWord, ih later]
      rfl

end

namespace Command

namespace Invocation

theorem Finishes.lists_edges {invocation : Invocation} {text : String} {timeline : Timeline}
    (finishes : invocation.Finishes text timeline) (listing : invocation.emit = .deps) :
    ∃ edges, timeline.edges = some edges ∧ (∀ edge ∈ edges, IsWord edge.register) ∧
      (invocation.runText text).output = lines (edges.map Edge.display) := by
  obtain ⟨rows, _, rfl, written⟩ := finishes.output listing Emit.noConfusion
  have made : (invocation.timeline rows).edges = some (resolveDependencies invocation.tracked
      (buildTasks invocation.checkOrder rows).tasks) := by
    rw [timeline, listing]
    rfl
  refine ⟨_, made, fun edge member => resolved_registers_are_words member, ?_⟩
  rw [written, Emit.output, made, Option.getD_some]

end Invocation

/-- A listing of edges is decoded in one way. It has a line for each edge, which shows the numbers of
the two tasks behind their marks and the register in parentheses, and reading the lines gives the
edges back. So runs with one listing have the same edges, whatever their traces and their tracked
classes. -/
theorem edge_listing_reads_back :
    (∀ (invocation : Invocation) (text : String) (timeline : Timeline),
      invocation.emit = .deps → invocation.Finishes text timeline →
        let output := (invocation.runText text).output
        ∃ edges, timeline.edges = some edges ∧
          (linesOf output = edges.map fun edge =>
            "#" ++ toString edge.producer ++ " -> #" ++ toString edge.consumer ++
              " (" ++ edge.register ++ ")") ∧
          readEdgeListing output = some edges) ∧
    (∀ (one other : Invocation) (text otherText : String) (timeline otherTimeline : Timeline),
      one.emit = .deps → one.Finishes text timeline →
        other.emit = .deps → other.Finishes otherText otherTimeline →
          (one.runText text).output = (other.runText otherText).output →
            timeline.edges = otherTimeline.edges) := by
  constructor
  · intro invocation text timeline listing finishes output
    obtain ⟨edges, made, words, written⟩ := finishes.lists_edges listing
    have reads := read_edge_listing words
    have shows := lines_of_edge_listing words
    rw [← written] at reads shows
    exact ⟨edges, made, shows.trans (List.map_congr_left fun edge _ => edge.display_eq), reads⟩
  · intro one other text otherText timeline otherTimeline listing finishes otherListing
      otherFinishes same
    obtain ⟨edges, made, words, written⟩ := finishes.lists_edges listing
    obtain ⟨otherEdges, otherMade, otherWords, otherWritten⟩ :=
      otherFinishes.lists_edges otherListing
    have read := read_edge_listing words
    rw [← written, same, otherWritten, read_edge_listing otherWords] at read
    rw [made, otherMade, read]

/-- A register with an arrow in its name, and a second trace with other cycles and texts but the same
edge. -/
theorem arrow_in_a_register_reads_back :
    let rows : List Row := [⟨"add 1->2,x1,x2", .scalar, 0, 1, none⟩,
      ⟨"add x3,1->2,1->2", .scalar, 1, 2, none⟩]
    let others : List Row := [⟨"sub 1->2,x1,x2", .scalar, 4, 9, none⟩,
      ⟨"add x3,x4,1->2", .scalar, 0, 2, none⟩]
    let command : Invocation := ⟨"trace.json", .deps, .all, true, false⟩
    let listing := (command.runText (Trace.write rows)).output
    ∃ timeline otherTimeline, command.Finishes (Trace.write rows) timeline ∧
      command.Finishes (Trace.write others) otherTimeline ∧
      linesOf listing = ["#0 -> #1 (1->2)"] ∧ readEdgeListing listing = some [⟨0, 1, "1->2"⟩] ∧
      (command.runText (Trace.write others)).output = listing ∧
      timeline.edges = otherTimeline.edges := by
  intro rows others command listing
  have fits : ∀ row ∈ rows, row.Fits := by decide
  have othersFit : ∀ row ∈ others, row.Fits := by decide
  have runs : command.emit ≠ .buildInfo := Emit.noConfusion
  have finishes := Invocation.finishes_written runs fits (by decide) (by decide)
  have othersFinish := Invocation.finishes_written runs othersFit (by decide) (by decide)
  have made : (command.timeline rows).edges = some [⟨0, 1, "1->2"⟩] := by decide
  have othersMade : (command.timeline others).edges = some [⟨0, 1, "1->2"⟩] := by decide
  obtain ⟨reads, settled⟩ := edge_listing_reads_back
  obtain ⟨edges, edgesMade, shown, read⟩ := reads command _ _ rfl finishes
  obtain rfl := Option.some.inj (edgesMade.symm.trans made)
  obtain ⟨listed, listedMade, _, written⟩ := finishes.lists_edges rfl
  obtain ⟨otherListed, otherListedMade, _, otherWritten⟩ := othersFinish.lists_edges rfl
  have same : (command.runText (Trace.write others)).output = listing := by
    rw [made, Option.some.injEq] at listedMade
    rw [othersMade, Option.some.injEq] at otherListedMade
    rw [otherWritten, ← otherListedMade, listedMade]
    exact written.symm
  exact ⟨_, _, finishes, othersFinish, shown, read, same,
    settled command command _ _ _ _ rfl finishes rfl othersFinish same.symm⟩

end Command

end Retirement
