import NotebookGuard.Decimal.Shortest

/-!
# Durations

A span of time in whole seconds and nanoseconds, and its text: whole seconds
when the milliseconds are zero (`60s`), else the seconds as a double rounded to
one decimal (`1.2s`).
-/

namespace NotebookGuard

/-- A span of time. -/
structure Duration where
  secs : Nat
  nanos : Nat
  nanos_lt : nanos < 1000000000 := by omega

namespace Duration

/-- No time at all. -/
def zero : Duration := ⟨0, 0, by decide⟩

/-- A span of whole milliseconds. -/
def ofMillis (ms : Nat) : Duration :=
  ⟨ms / 1000, ms % 1000 * 1000000, by omega⟩

/-- A span of whole seconds. -/
def ofSecs (s : Nat) : Duration := ⟨s, 0, by decide⟩

/-- The whole milliseconds of the span. -/
def millis (d : Duration) : Nat := d.secs * 1000 + d.nanos / 1000000

/-- The span in seconds, as a double. -/
def toFloat (d : Duration) : Float :=
  d.secs.toUInt64.toFloat + d.nanos.toUInt64.toFloat / 1000000000.0

/-- Written in seconds: whole when the milliseconds past the second are zero,
else to one decimal. -/
def text (d : Duration) : String :=
  if d.nanos / 1000000 = 0 then toString d.secs ++ "s"
  else FloatText.oneDecimal d.toFloat ++ "s"

instance : LE Duration := ⟨fun a b => a.secs * 1000000000 + a.nanos ≤ b.secs * 1000000000 + b.nanos⟩

/-- The span in nanoseconds. -/
def toNanos (d : Duration) : Nat := d.secs * 1000000000 + d.nanos

/-- A span of whole nanoseconds. -/
def ofNanos (n : Nat) : Duration := ⟨n / 1000000000, n % 1000000000, by omega⟩

/-- The shorter of two spans. -/
def min (a b : Duration) : Duration := if a.toNanos ≤ b.toNanos then a else b

/-- The difference of two spans, zero when `b` is the longer. -/
def sub (a b : Duration) : Duration := ofNanos (a.toNanos - b.toNanos)

end Duration

end NotebookGuard
