import Retirement.Command.Outcome

/-!
The program: reads the file that the command names, and prints what the command gives. It is built
for debugging, and so checks the order of rows unless it is told not to.
-/

namespace Retirement.Command

/-- The causes of a failed read that have a fixed wording. -/
def readFaultOf : IO.Error → Trace.ReadFault
  | .noFileOrDirectory .. => .notFound
  | .inappropriateType .. => .isDirectory
  | .permissionDenied .. => .system "Permission denied" 13
  | other => .system (toString other) 5

def readContents (path : String) : IO (Except Trace.ReadFault String) := do
  try
    pure (Trace.textOfBytes (← IO.FS.readBinFile path))
  catch fault => pure (.error (readFaultOf fault))

def milliseconds (tenths : Nat) : String :=
  toString (tenths / 10) ++ "." ++ toString (tenths % 10) ++ "ms"

end Retirement.Command

def main (arguments : List String) : IO UInt32 := do
  match Retirement.Command.Invocation.ofArguments arguments .debug with
  | .error answer => do
      if answer.exitCode = 0 then IO.print answer.text else IO.eprint answer.text
      pure answer.exitCode.toUInt32
  | .ok invocation => do
      let contents ← Retirement.Command.readContents invocation.path
      let start ← IO.monoNanosNow
      let outcome := invocation.run contents
      IO.print outcome.output
      let stop ← IO.monoNanosNow
      let elapsed := Retirement.Command.milliseconds ((stop - start) / 100000)
      IO.eprint (outcome.errorText fun _ => elapsed)
      pure outcome.exitCode.toUInt32
