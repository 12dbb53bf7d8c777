import Retirement.Trace.Reader

/-!
Loading a trace: its text is read, and its rows are put into program order. A file can fail before
that, when it cannot be read or is not text.
-/

namespace Retirement.Trace

inductive ReadFault
  /-- The operating system refuses, with its own words and number. -/
  | system (description : String) (number : Nat)
  /-- The bytes are not UTF-8. -/
  | notText
  deriving DecidableEq, Repr

namespace ReadFault

def notFound : ReadFault := system "No such file or directory" 2

def isDirectory : ReadFault := system "Is a directory" 21

def message : ReadFault → String
  | system description number => description ++ " (os error " ++ toString number ++ ")"
  | notText => "stream did not contain valid UTF-8"

end ReadFault

def textOfBytes (bytes : ByteArray) : Except ReadFault String :=
  match String.fromUTF8? bytes with
  | some text => .ok text
  | none => .error .notText

inductive LoadFault
  | read (fault : ReadFault)
  | json (text : String) (refusal : Json.Refusal)

namespace LoadFault

def cause : LoadFault → String
  | read fault => fault.message
  | json text refusal => refusal.message text.toList

def message : LoadFault → String
  | read fault => fault.message
  | json text refusal => "invalid trace: " ++ refusal.message text.toList

def messageAt (path : String) (fault : LoadFault) : String := path ++ ": " ++ fault.message

end LoadFault

/-- The rows of a trace text in program order. -/
def load (text : String) : Except LoadFault (List Row) :=
  match readRows text.toList with
  | .ok rows => .ok (programOrder rows)
  | .error refusal => .error (.json text refusal)

def loadRead (contents : Except ReadFault String) : Except LoadFault (List Row) :=
  match contents with
  | .ok text => load text
  | .error fault => .error (.read fault)

end Retirement.Trace
