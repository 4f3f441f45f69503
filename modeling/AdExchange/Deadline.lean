import AdExchange.AuctionError

/-!
# Deadlines

Times are whole milliseconds on the clock of the exchange.  All stages of an auction share one
deadline; a partner may have an earlier one of its own, never a later one.
-/

namespace AdExchange

/-- A result that takes some milliseconds to come. -/
structure Timed (α : Type) where
  delay : Nat
  value : α
  deriving Inhabited

/-- A point in time by which something has to be done. -/
structure Deadline where
  /-- In milliseconds on the clock of the exchange. -/
  instant : Nat
  deriving DecidableEq, Repr, Inhabited

namespace Deadline

/-- The deadline `tmax` milliseconds after `start`. -/
def ofTmax (start tmax : Nat) : Deadline := ⟨start + tmax⟩

def remaining (d : Deadline) (now : Nat) : Nat := d.instant - now

/-- The deadline moved forward by `reserved`; refused if no time would be left. -/
def reserve (d : Deadline) (now reserved : Nat) : Except AuctionError Deadline :=
  if d.remaining now ≤ reserved then .error (.deadlineExhausted (d.remaining now) reserved)
  else .ok ⟨d.instant - reserved⟩

/-- The earlier one of the deadline and a timeout that starts at `now`. -/
def boundedBy (d : Deadline) (now : Nat) : Option Nat → Deadline
  | some timeout => ⟨min d.instant (now + timeout)⟩
  | none => d

/-- Waits for a result from `now` on; `none` if the deadline comes first.  What takes no time
comes in time even if the deadline has passed. -/
def await {α : Type} (d : Deadline) (now : Nat) (t : Timed α) : Timed (Option α) :=
  if t.delay ≤ d.remaining now then ⟨t.delay, some t.value⟩ else ⟨d.remaining now, none⟩

@[simp] theorem remaining_ofTmax (start tmax : Nat) :
    (ofTmax start tmax).remaining start = tmax := by
  simp [ofTmax, remaining]

theorem remaining_boundedBy_le (d : Deadline) (now : Nat) (timeout : Option Nat) :
    (d.boundedBy now timeout).remaining now ≤ d.remaining now := by
  cases timeout <;> simp only [boundedBy, remaining] <;> omega

theorem delay_await_le {α : Type} (d : Deadline) (now : Nat) (t : Timed α) :
    (d.await now t).delay ≤ d.remaining now := by
  unfold await
  split <;> simp_all

end Deadline

end AdExchange
