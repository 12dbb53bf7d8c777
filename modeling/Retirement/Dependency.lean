import Retirement.Task

/-!
Read-after-write dependencies. One scan in trace order remembers the last writer of every register;
a task of a tracked class that reads a register gets an edge from that writer. Other hazards, and
reads by classes that are not tracked, give no edges.
-/

namespace Retirement

open Instruction (ClassSet)

structure Edge where
  producer : Nat
  consumer : Nat
  register : String
  deriving DecidableEq, Repr

def Edge.display (edge : Edge) : String :=
  displayId edge.producer ++ " -> " ++ displayId edge.consumer ++ " (" ++ edge.register ++ ")"

/-- The writers seen so far, the latest first. -/
abbrev Writers := List (String × Nat)

/-- The edge for one register that a task reads. A writer that does not come before the task is not
replaced by an older one. -/
def readEdge (writers : Writers) (consumer : Nat) (register : String) : Option Edge :=
  match writers.lookup register with
  | some producer => if producer < consumer then some ⟨producer, consumer, register⟩ else none
  | none => none

def readEdges (tracked : ClassSet) (writers : Writers) (task : Task) : List Edge :=
  if task.opClass ∈ tracked then task.sources.filterMap (readEdge writers task.id) else []

/-- A task's write counts only for the tasks after it. -/
def recordWrite (writers : Writers) (task : Task) : Writers :=
  match task.destination with
  | some register => (register, task.id) :: writers
  | none => writers

def resolveFrom (tracked : ClassSet) : Writers → List Task → List Edge
  | _, [] => []
  | writers, task :: rest =>
      readEdges tracked writers task ++ resolveFrom tracked (recordWrite writers task) rest

/-- All edges, by consumer in trace order, and for one consumer in the order of its sources. -/
def resolveDependencies (tracked : ClassSet) (tasks : List Task) : List Edge :=
  resolveFrom tracked [] tasks

structure EdgeCheck where
  producerPrecedes : Bool
  trackedConsumers : Bool
  registerFlow : Bool
  deriving DecidableEq, Repr

namespace EdgeCheck

def obligations (check : EdgeCheck) : List (String × Bool) :=
  [("D1_producer_precedes", check.producerPrecedes),
   ("D2_tracked_consumers", check.trackedConsumers), ("D3_register_flow", check.registerFlow)]

def passes (check : EdgeCheck) : Bool :=
  check.producerPrecedes && check.trackedConsumers && check.registerFlow

end EdgeCheck

def consumerTracked (tracked : ClassSet) (tasks : List Task) (edge : Edge) : Bool :=
  match tasks[edge.consumer]? with
  | some task => tracked.has task.opClass
  | none => false

def producerWrites (tasks : List Task) (edge : Edge) : Bool :=
  match tasks[edge.producer]? with
  | some task => task.destination == some edge.register
  | none => false

def consumerReads (tasks : List Task) (edge : Edge) : Bool :=
  match tasks[edge.consumer]? with
  | some task => task.sources.contains edge.register
  | none => false

/-- Edges name tasks by their position in the list. -/
def checkDependencies (tracked : ClassSet) (tasks : List Task) (edges : List Edge) : EdgeCheck where
  producerPrecedes := edges.all fun edge => decide (edge.producer < edge.consumer)
  trackedConsumers := edges.all (consumerTracked tracked tasks)
  registerFlow := edges.all fun edge => producerWrites tasks edge && consumerReads tasks edge

end Retirement
