/-!
The passes of a run, what each needs and makes, and the least schedule for a request. Passes that
others need come first, and no pass comes twice.
-/

namespace Retirement

inductive Pass
  | buildTasks
  | allocateLanes
  | resolveDeps
  deriving DecidableEq, Repr

inductive Artifact
  | tasks
  | lanes
  | edges
  deriving DecidableEq, Repr

namespace Pass

def all : List Pass := [buildTasks, allocateLanes, resolveDeps]

theorem mem_all (pass : Pass) : pass ∈ all := by cases pass <;> decide

def name : Pass → String
  | buildTasks => "build_tasks"
  | allocateLanes => "allocate_lanes"
  | resolveDeps => "resolve_deps"

/-- The passes whose artifacts a pass reads. Lanes and edges both need the tasks, and neither needs
the other. -/
def inputs : Pass → List Pass
  | buildTasks => []
  | allocateLanes => [buildTasks]
  | resolveDeps => [buildTasks]

def outputs : Pass → List Artifact
  | buildTasks => [.tasks]
  | allocateLanes => [.lanes]
  | resolveDeps => [.edges]

def promise : Pass → String
  | buildTasks => "one task per row, program order = row index"
  | allocateLanes => "L1-L2: every task laned, same-lane intervals disjoint"
  | resolveDeps => "D1-D3: producer precedes consumer, tracked consumers only"

/-- Adds a pass to an order after everything that it needs, to the given depth of inputs. -/
def visit : Nat → List Pass → Pass → List Pass
  | 0, order, _ => order
  | depth + 1, order, pass =>
      if pass ∈ order then order else pass.inputs.foldl (visit depth) order ++ [pass]

/-- The least order of passes that makes every target. No chain of inputs is longer than the number
of passes. -/
def schedule (targets : List Pass) : List Pass := targets.foldl (visit all.length) []

end Pass

end Retirement
