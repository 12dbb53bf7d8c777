/-!
Byte spans inside one text.
-/

namespace Retirement

/-- The bytes from `start` up to, and not including, `stop`. -/
structure Span where
  start : Nat
  stop : Nat
  deriving DecidableEq, Repr

namespace Span

def join (first second : Span) : Span :=
  ⟨min first.start second.start, max first.stop second.stop⟩

def point (offset : Nat) : Span := ⟨offset, offset⟩

end Span

end Retirement
