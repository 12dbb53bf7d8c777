import Retirement.Digest
import Retirement.Json.Printer

/-!
Where an output comes from: the digest of the trace text it was made from, and the version of the
tool that made it.
-/

namespace Retirement

structure Provenance where
  traceHash : List UInt8
  toolVersion : String
  deriving DecidableEq, Repr

namespace Provenance

def version : String := "0.2.1"

/-- The digest covers the bytes of the text as it was read. -/
def ofText (text : String) : Provenance := ⟨Digest.sha256 text.toUTF8.toList, version⟩

def hexByte (byte : UInt8) : List Char :=
  [Nat.digitChar (byte.toNat / 16), Nat.digitChar (byte.toNat % 16)]

def traceHashText (provenance : Provenance) : String :=
  String.ofList (provenance.traceHash.flatMap hexByte)

def value (provenance : Provenance) : Json.Value :=
  .object
    [("tool_version", .string provenance.toolVersion),
     ("trace_hash", .string provenance.traceHashText)]

def document (provenance : Provenance) : String := String.ofList (Json.document provenance.value)

end Provenance

end Retirement
