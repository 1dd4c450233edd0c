/-!
# Spans

A span is a stretch of bytes in a script, given by where it starts and how long it is. `Span.hull`
is the smallest span around two others. `Span.spanning` makes a span from two bounds and tells what
is wrong with bounds that enclose none. A `Spanned` value is one that a stretch of a script stands
for.
-/

namespace TextCursor

/-- A stretch of `length` bytes from the byte `start` on. -/
@[ext]
structure Span where
  start : Nat
  length : Nat
  deriving DecidableEq

/-- One end of a stretch of bytes. -/
inductive Bound where
  | included (place : Nat)
  | excluded (place : Nat)
  | unbounded
  deriving DecidableEq

/-- Why two bounds enclose no span. -/
inductive SpanFault where
  | unbounded
  | reversed
  deriving DecidableEq

/-- The wording of a fault, for programs that show it; a script that is run never meets it. -/
def SpanFault.message : SpanFault → String
  | .unbounded => "span is unbounded"
  | .reversed => "end offset precedes start offset"

namespace Bound

/-- The first place inside a stretch that starts at the bound. -/
def asStart : Bound → Except SpanFault Nat
  | included place => .ok place
  | excluded place => .ok (place + 1)
  | unbounded => .error .unbounded

/-- The first place after a stretch that ends at the bound. -/
def asStop : Bound → Except SpanFault Nat
  | included place => .ok (place + 1)
  | excluded place => .ok place
  | unbounded => .error .unbounded

end Bound

namespace Span

def origin : Span := ⟨0, 0⟩

def stop (span : Span) : Nat := span.start + span.length

/-- The span between two bounds; a fault of the starting bound is told first. -/
def spanning (start stop : Bound) : Except SpanFault Span := do
  let first ← start.asStart
  let last ← stop.asStop
  if first ≤ last then .ok ⟨first, last - first⟩ else .error .reversed

/-- The smallest span around two spans. -/
def hull (left right : Span) : Span :=
  let start := min left.start right.start
  ⟨start, max left.stop right.stop - start⟩

@[simp]
theorem start_hull (left right : Span) :
    (left.hull right).start = min left.start right.start := rfl

@[simp]
theorem stop_hull (left right : Span) :
    (left.hull right).stop = max left.stop right.stop := by
  simp only [hull, stop]
  omega

/-- The smallest span around the spans of a list, and the origin if there are none. -/
def hullAll : List Span → Span
  | [] => origin
  | first :: rest => rest.foldl hull first

end Span

/-- A value and the bytes of a script that it belongs to. -/
@[ext]
structure Spanned (Value : Type) where
  value : Value
  span : Span
  deriving DecidableEq

end TextCursor
