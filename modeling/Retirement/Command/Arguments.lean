import Retirement.Provenance
import Retirement.Timeline

/-!
The command line. One path is expected, and options may stand before or after it. What is written
and which classes are tracked can be chosen. The check of the row order can be switched on and off,
and the last switch counts; without one the build decides. A request for help or for the version is
answered as soon as it is read, so that nothing behind it is looked at and no trace is. How the help
is laid out and how a fault is worded is for readers only.
-/

namespace Retirement.Command

open Instruction (ClassSet OpClass)

inductive Emit
  | text
  | json
  | tasks
  | lanes
  | deps
  | buildInfo
  deriving DecidableEq, Repr

namespace Emit

def all : List Emit := [text, json, tasks, lanes, deps, buildInfo]

def name : Emit → String
  | text => "text"
  | json => "json"
  | tasks => "tasks"
  | lanes => "lanes"
  | deps => "deps"
  | buildInfo => "build-info"

def title : Emit → String
  | text => "Text"
  | json => "Json"
  | tasks => "Tasks"
  | lanes => "Lanes"
  | deps => "Deps"
  | buildInfo => "BuildInfo"

/-- The passes whose artifacts are written. -/
def targets : Emit → List Pass
  | text => [.allocateLanes, .resolveDeps]
  | json => [.allocateLanes, .resolveDeps]
  | tasks => [.buildTasks]
  | lanes => [.allocateLanes]
  | deps => [.resolveDeps]
  | buildInfo => []

def ofName? (name : String) : Option Emit := all.find? fun emit => emit.name == name

end Emit

def trackNames : List (String × List OpClass) :=
  [("arithmetic", [.arithmetic]), ("indexed-load", [.indexedLoad]),
   ("fma", [.fusedMultiplyAccumulate]), ("branch", [.conditionalBranch]),
   ("unclassified", [.unclassified]), ("all", OpClass.all)]

def trackedBy? (name : String) : Option (List OpClass) :=
  (trackNames.find? fun entry => entry.1 == name).map Prod.snd

structure Invocation where
  path : String
  emit : Emit
  tracked : ClassSet
  checkOrder : Bool
  verbose : Bool

inductive UsageFault
  | unknownOption (option : String)
  | missingValue (option : String)
  | badValue (option value : String)
  | unexpectedValue (option : String)
  | repeated (option : String)
  | extraPath (path : String)
  | noPath
  deriving DecidableEq, Repr

def UsageFault.message : UsageFault → String
  | unknownOption option => "unexpected argument '" ++ option ++ "' found"
  | missingValue option => "a value is required for '" ++ option ++ "' but none was supplied"
  | badValue option value => "invalid value '" ++ value ++ "' for '" ++ option ++ "'"
  | unexpectedValue option => "unexpected value for '" ++ option ++ "' found"
  | repeated option => "the argument '" ++ option ++ "' cannot be used multiple times"
  | extraPath path => "unexpected argument '" ++ path ++ "' found"
  | noPath => "the path of a trace is required"

/-- What is answered instead of a run. -/
inductive Answer
  | help
  | version
  | usage (fault : UsageFault)
  deriving DecidableEq, Repr

namespace Answer

def exitCode : Answer → Nat
  | help | version => 0
  | usage _ => 2

def choices (names : List String) : String :=
  " [possible values: " ++ ", ".intercalate names ++ "]"

def helpLines : List String :=
  ["Pipeline timeline — rebuilds lane-packed execution timelines from retirement traces",
   "",
   "Usage: ptl [OPTIONS] <TRACE>",
   "",
   "Arguments:",
   "  <TRACE>  Input trace (JSON array of retired-instruction rows)",
   "",
   "Options:",
   "      --emit <EMIT>     Output stage [default: " ++ Emit.text.name ++ "]" ++
     choices (Emit.all.map Emit.name),
   "      --track <TRACK>   Consumer class whose reads produce dependency edges " ++
     "(repeatable, default fma)" ++ choices (trackNames.map Prod.fst),
   "      --check-order     Warn when rows are not in program-counter order",
   "      --no-check-order  Skip the program-counter order check",
   "      --verbose         Print phases and timing",
   "  -h, --help            Print help",
   "  -V, --version         Print version"]

def text : Answer → String
  | help => String.join (helpLines.map fun line => line ++ "\n")
  | version => "ptl " ++ Provenance.version ++ "\n"
  | usage fault => "error: " ++ fault.message ++ "\n"

end Answer

def orFault {Result : Type} (result : Except UsageFault Result) : Except Answer Result :=
  result.mapError .usage

structure Arguments where
  path : Option String
  emit : Option Emit
  tracked : List OpClass
  order : Option Bool
  verbose : Bool
  deriving DecidableEq, Repr

namespace Arguments

def blank : Arguments := ⟨none, none, [], none, false⟩

def addPath (arguments : Arguments) (path : String) : Except UsageFault Arguments :=
  if path = "" then .error .noPath
  else
    match arguments.path with
    | some _ => .error (.extraPath path)
    | none => .ok { arguments with path := some path }

def addEmit (arguments : Arguments) (value : String) : Except UsageFault Arguments :=
  match Emit.ofName? value, arguments.emit with
  | none, _ => .error (.badValue "--emit" value)
  | some _, some _ => .error (.repeated "--emit")
  | some emit, none => .ok { arguments with emit := some emit }

def addTrack (arguments : Arguments) (value : String) : Except UsageFault Arguments :=
  match trackedBy? value with
  | none => .error (.badValue "--track" value)
  | some classes => .ok { arguments with tracked := arguments.tracked ++ classes }

/-- A switch for the order check forgets the other one; the same one twice in a row is refused. -/
def setOrder (arguments : Arguments) (option : String) (on : Bool) : Except UsageFault Arguments :=
  if arguments.order = some on then .error (.repeated option)
  else .ok { arguments with order := some on }

def setVerbose (arguments : Arguments) : Except UsageFault Arguments :=
  if arguments.verbose then .error (.repeated "--verbose")
  else .ok { arguments with verbose := true }

def addFlag (arguments : Arguments) (option : String) : Except UsageFault Arguments :=
  if option = "--verbose" then arguments.setVerbose
  else if option = "--check-order" then arguments.setOrder option true
  else if option = "--no-check-order" then arguments.setOrder option false
  else .error (.unknownOption option)

def isFlag (option : String) : Bool :=
  ["--verbose", "--check-order", "--no-check-order", "--help", "--version"].contains option

def addValue (arguments : Arguments) (option value : String) : Except UsageFault Arguments :=
  if option = "--emit" then arguments.addEmit value
  else if option = "--track" then arguments.addTrack value
  else if isFlag option then .error (.unexpectedValue option)
  else .error (.unknownOption option)

def takesValue (option : String) : Bool := option = "--emit" || option = "--track"

def finish (build : Build) (arguments : Arguments) : Except UsageFault Invocation :=
  match arguments.path with
  | none => .error .noPath
  | some path =>
      .ok
        { path := path
          emit := arguments.emit.getD .text
          tracked :=
            if arguments.tracked.isEmpty then (Options.default build).tracked
            else .ofList arguments.tracked
          checkOrder := arguments.order.getD (Options.default build).checkOrder
          verbose := arguments.verbose }

end Arguments

def splitOption (argument : String) : String × Option String :=
  let letters := argument.toList
  match letters.dropWhile fun c => c != '=' with
  | [] => (argument, none)
  | _ :: value =>
      (String.ofList (letters.takeWhile fun c => c != '='), some (String.ofList value))

/-- Whether an argument is an option; a dash alone is a path. -/
def isOption (argument : String) : Bool :=
  match argument.toList with
  | '-' :: _ :: _ => true
  | _ => false

/-- After two dashes every argument is a path. -/
def readPaths : Arguments → List String → Except UsageFault Arguments
  | arguments, [] => .ok arguments
  | arguments, path :: rest => do readPaths (← arguments.addPath path) rest

/-- Letters behind the first one are not looked at, since that is answered already. -/
def request? (argument : String) : Option Answer :=
  match argument.toList with
  | '-' :: 'h' :: _ => some .help
  | '-' :: 'V' :: _ => some .version
  | _ =>
      if argument = "--help" then some .help
      else if argument = "--version" then some .version
      else none

def readArguments : Arguments → List String → Except Answer Arguments
  | arguments, [] => .ok arguments
  | arguments, argument :: rest =>
      if argument = "--" then orFault (readPaths arguments rest)
      else if isOption argument then
        match request? argument, splitOption argument with
        | some answer, _ => .error answer
        | none, (option, some value) => do
            readArguments (← orFault (arguments.addValue option value)) rest
        | none, (option, none) =>
            if Arguments.takesValue option then
              match rest with
              | [] => .error (.usage (.missingValue option))
              | value :: rest => do readArguments (← orFault (arguments.addValue option value)) rest
            else do readArguments (← orFault (arguments.addFlag option)) rest
      else do readArguments (← orFault (arguments.addPath argument)) rest

def Invocation.ofArguments (arguments : List String) (build : Build := .debug) :
    Except Answer Invocation := do
  orFault ((← readArguments .blank arguments).finish build)

end Retirement.Command
