import AdExchange.Dispatch

/-!
# Waiting for several results

Whoever waits for several results at the same time waits as long as for the latest one.
-/

namespace AdExchange

variable {α : Type}

/-- How long a computation that may fail takes; one that fails takes no time. -/
def delayOf {ε : Type} : Except ε (Timed α) → Nat
  | .error _ => 0
  | .ok t => t.delay

@[simp] theorem longestDelay_nil : longestDelay ([] : List (Timed α)) = 0 := rfl

@[simp] theorem longestDelay_cons (r : Timed α) (rest : List (Timed α)) :
    longestDelay (r :: rest) = max r.delay (longestDelay rest) := rfl

theorem longestDelay_le_iff {results : List (Timed α)} {n : Nat} :
    longestDelay results ≤ n ↔ ∀ r ∈ results, r.delay ≤ n := by
  induction results with
  | nil => simp
  | cons r rest ih =>
    rw [longestDelay_cons, List.forall_mem_cons, ← ih]
    omega

/-- The latest of some results that are all waited for from `start` on. -/
theorem foldl_max_delays (results : List (Timed α)) {start now : Nat} (h : start ≤ now) :
    (results.map fun r => start + r.delay).foldl max now =
      max now (start + longestDelay results) := by
  induction results generalizing now with
  | nil =>
    simp only [List.map_nil, List.foldl_nil, longestDelay_nil]
    omega
  | cons r rest ih =>
    rw [List.map_cons, List.foldl_cons, ih (by omega), longestDelay_cons]
    omega

/-- The longest delay is the greatest one, or zero. -/
theorem longestDelay_eq_foldl (results : List (Timed α)) :
    longestDelay results = (results.map (·.delay)).foldl max 0 := by
  simpa using (foldl_max_delays results (Nat.le_refl 0)).symm

theorem foldl_max_le_iff {l : List Nat} {n bound : Nat} :
    l.foldl max n ≤ bound ↔ n ≤ bound ∧ ∀ t ∈ l, t ≤ bound := by
  induction l generalizing n with
  | nil => simp
  | cons t rest ih => rw [List.foldl_cons, ih, List.forall_mem_cons, Nat.max_le, and_assoc]

theorem foldl_max_le {l : List Nat} {n bound : Nat} (hn : n ≤ bound) (h : ∀ t ∈ l, t ≤ bound) :
    l.foldl max n ≤ bound :=
  foldl_max_le_iff.2 ⟨hn, h⟩

/-- A wait takes as long as the result, cut off at the deadline. -/
theorem Deadline.delay_await (d : Deadline) (now : Nat) (t : Timed α) :
    (d.await now t).delay = min t.delay (d.remaining now) := by
  rw [await]
  split
  · next h => exact (Nat.min_eq_left h).symm
  · next h => exact (Nat.min_eq_right (Nat.le_of_not_le h)).symm

/-- What comes in time is there. -/
theorem Deadline.value_await {d : Deadline} {now : Nat} {t : Timed α}
    (h : t.delay ≤ d.remaining now) : (d.await now t).value = some t.value := by
  rw [await, if_pos h]

/-- What is there when the wait is over is what was waited for. -/
theorem Deadline.value_eq_of_await {d : Deadline} {now : Nat} {t : Timed α} {a : α}
    (h : (d.await now t).value = some a) : t.value = a := by
  rw [await] at h
  split at h
  · exact Option.some.inj h
  · cases h

/-- What takes no time is there at once, whatever the deadline. -/
theorem Deadline.await_of_instant {t : Timed α} (h : t.delay = 0) (d : Deadline) (now : Nat) :
    d.await now t = ⟨0, some t.value⟩ := by
  rw [await, if_pos (by omega), h]

end AdExchange
