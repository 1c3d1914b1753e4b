import Auction.Time.Basic

/-!
# The wait between two attempts of a compare-and-swap

When an attempt loses its commit to a version conflict and another attempt is left, the loop
waits before it starts again. The wait takes a base delay and doubles it once for every
attempt lost before, as a left shift of 64-bit nanoseconds, so a long run of lost attempts
wraps around the signed range (`Duration.shiftLeft`). A positive maximum caps the delay
(`Backoff.delay`). The sleep is then half the delay plus a random draw below half the delay
plus one, both halves truncating. The draw `N(n)` is uniform in `[0, n)` and panics unless
`n > 0`. With no positive base delay there is no wait at all.

How long the house slept shows in no answer, so `Backoff.pause` gives the range of the sleep
rather than one draw, or the panic when the draw is asked for a bound that is not positive.
-/

namespace Auction

namespace Duration

/-- The duration shifted left by `s` bits in 64-bit arithmetic: a shift past the width gives
zero, and a product past the signed range wraps around. -/
def shiftLeft (d : Duration) (s : Nat) : Duration := ⟨wrap64 (d.ns * Int.pow 2 s)⟩

end Duration

/-- How a wait between two attempts ends: asleep for a time between `shortest` and `longest`,
or a panic with its text, which ends the whole request. -/
inductive Pause where
  | sleep (shortest longest : Duration)
  | panic (text : String)
  deriving DecidableEq, Repr

namespace Backoff

/-- The text of the panic of a draw asked for a bound that is not positive. -/
def drawPanic : String := "invalid argument to N"

/-- The delay after the attempt numbered `attempt` (from one) lost: the base delay doubled once
for each attempt lost before, and the maximum instead when the maximum is positive and smaller. -/
def delay (base cap : Duration) (attempt : Nat) : Duration :=
  let d := base.shiftLeft (attempt - 1)
  if 0 < cap.ns ∧ cap.ns < d.ns then cap else d

/-- The wait after the attempt numbered `attempt` lost: none without a positive base delay, and
otherwise `d / 2 + N(d / 2 + 1)` for the delay `d`, which sleeps between `d / 2` and twice that,
or panics in the draw. -/
def pause (base cap : Duration) (attempt : Nat) : Pause :=
  if base.ns ≤ 0 then .sleep ⟨0⟩ ⟨0⟩
  else
    let half := (delay base cap attempt).ns.tdiv 2
    if half + 1 ≤ 0 then .panic drawPanic else .sleep ⟨half⟩ ⟨half + half⟩

end Backoff

end Auction
