import Turnstile.Saturating

/-!
# Clocks

A limiter reads its clock once per check, in milliseconds since the epoch.  Two
clocks are described here: one that stands still until it is moved by hand, in
either direction, and one that adds the running time since start-up to the
epoch time noted at start-up, so that it never runs backwards.
-/

namespace Turnstile

/-- A clock that only moves when told to. -/
structure Clock where
  nowMs : Int64
deriving DecidableEq, Repr

namespace Clock

/-- Sets the reading, possibly to an earlier one. -/
def set (_clock : Clock) (nowMs : Int64) : Clock where
  nowMs := nowMs

/-- Moves the reading by a signed amount, wrapping at the ends of the word. -/
def advance (clock : Clock) (millis : Int64) : Clock where
  nowMs := clock.nowMs + millis

end Clock

/-- The epoch time and the running time noted together at start-up. -/
structure Anchor where
  epochMs : Int64
  runningMs : Nat
deriving DecidableEq, Repr

namespace Anchor

/-- The epoch time at a later running time. -/
def reading (anchor : Anchor) (runningMs : Nat) : Int64 :=
  let elapsed := min (runningMs - anchor.runningMs) 0x7FFF_FFFF_FFFF_FFFF
  Saturating.shift anchor.epochMs (Int64.ofNat elapsed)

/-- An anchored clock never runs backwards. -/
theorem reading_mono
    (anchor : Anchor)
    {earlier later : Nat}
    (ordered : earlier ≤ later) :
    (anchor.reading earlier).toInt ≤ (anchor.reading later).toInt := by
  have toInt_elapsed (running : Nat) :
      (Int64.ofNat (min (running - anchor.runningMs) 0x7FFF_FFFF_FFFF_FFFF)).toInt =
        ((min (running - anchor.runningMs) 0x7FFF_FFFF_FFFF_FFFF : Nat) : Int) :=
    Int64.toInt_ofNat_of_lt (by omega)
  simp only [reading, Saturating.toInt_shift, toInt_elapsed]
  omega

end Anchor
end Turnstile
