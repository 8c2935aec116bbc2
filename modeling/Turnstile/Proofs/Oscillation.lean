import Turnstile.Proofs.Ceiling

/-!
# Clocks that oscillate

Moving the clock back and forth grants a key nothing beyond one pass over the
span from its first check to the latest instant of any of its checks.

A check that reads an earlier instant than the last refill leaves the refill
where it is, so that a bucket's last refill only moves on; and what a bucket is
worth at the latest instant counts every interval once, however often the clock
passes it.  The window up to that instant is never found closed, which is all
that the ceiling of a window asks of the clock.
-/

namespace Turnstile
namespace Limiter

/-- The number of checks of a key that were allowed. -/
def admitted (key : String) (calls : List Call) : Nat :=
  calls.countP fun call => call.key = key ∧ call.decision.isAllowed

/-- Where no check of a key is made outside a window, the window grants all that
is allowed. -/
theorem granted_eq_admitted
    {key : String}
    {opening closing : Int}
    {calls : List Call}
    (within : ∀ call ∈ calls, call.key = key →
      opening ≤ call.now.toInt ∧ call.now.toInt ≤ closing) :
    granted key opening closing calls = admitted key calls := by
  apply List.countP_congr
  intro call member
  simp only [Call.isGrant, decide_eq_true_eq]
  constructor
  · rintro ⟨keyed, allowed, -⟩
    exact ⟨keyed, allowed⟩
  · rintro ⟨keyed, allowed⟩
    exact ⟨keyed, allowed, within call member keyed⟩

/-- However the clock moves, as long as no bucket is removed, a key is allowed at
most the capacity and the refill rate for each whole interval between its first
check and the latest instant at which it is checked. -/
theorem admitted_le_of_one_pass
    (policy : Policy)
    (clock : Clock)
    (key : String)
    (events : List Event)
    (keeping : ∀ event ∈ events, event.IsKeeping)
    (measurable : (start policy clock).Measurable events)
    {first : Call}
    (isFirst :
      ((start policy clock).calls events).find? (·.key = key) = some first)
    {latest : Int}
    (bounded : ∀ call ∈ (start policy clock).calls events,
      call.key = key → call.now.toInt ≤ latest) :
    admitted key ((start policy clock).calls events) ≤
      policy.capacity.toNat + policy.refillRate.toNat *
        ((latest - first.now.toInt).toNat / policy.intervalMs.toNat) := by
  have within : ∀ call ∈ (start policy clock).calls events, call.key = key →
      -0x8000_0000_0000_0000 ≤ call.now.toInt ∧ call.now.toInt ≤ latest :=
    fun call member keyed => ⟨call.now.le_toInt, bounded call member keyed⟩
  have bound := granted_le_of_opened_by_first (settled_start policy clock)
    (follows_start measurable) keeping rfl isFirst
    (staysClosed_of_forall_le bounded) (-0x8000_0000_0000_0000)
  rw [granted_eq_admitted within, Policy.earned, Nat.mul_comm] at bound
  exact bound

/-- The clock passes one interval three times, the last time in two steps.  The
key is allowed what one pass earns, and no more. -/
theorem admitted_over_three_passes :
    let limiter := start .small { nowMs := 0 }
    let events : List Event :=
      [.consume "a", .consume "a", .consume "a", .setClock 1000, .consume "a",
        .setClock (-500), .consume "a", .setClock 1000, .consume "a",
        .setClock 0, .consume "b", .setClock 600, .consume "a", .setClock 1000,
        .consume "a"]
    (∀ event ∈ events, event.IsKeeping) ∧ limiter.Measurable events ∧
      (limiter.calls events).find? (·.key = "a") =
        some { now := 0, key := "a", decision := .allowed 3 2 1 } ∧
      (∀ call ∈ limiter.calls events, call.key = "a" → call.now.toInt ≤ 1000) ∧
      admitted "a" (limiter.calls events) = 5 ∧
      admitted "a" (limiter.calls events) ≤ 3 + 2 * (1000 / 1000) := by
  intro limiter events
  have keeping : ∀ event ∈ events, event.IsKeeping := by
    simp [events, Event.IsKeeping]
  have measurable : limiter.Measurable events := by decide
  have first : (limiter.calls events).find? (·.key = "a") =
      some { now := 0, key := "a", decision := .allowed 3 2 1 } := by
    decide
  have bounded : ∀ call ∈ limiter.calls events,
      call.key = "a" → call.now.toInt ≤ 1000 := by
    decide
  exact ⟨keeping, measurable, first, bounded, by decide,
    admitted_le_of_one_pass .small { nowMs := 0 } "a" events keeping measurable
      first bounded⟩

end Limiter
end Turnstile
