/-!
# Lists of results

Where many things are tried, some succeed and some fail, and neither is lost.
-/

namespace AdExchange

variable {ε α : Type}

/-- The values in a list of results. -/
def successes (results : List (Except ε α)) : List α := results.filterMap (·.toOption)

/-- The errors in a list of results. -/
def failures (results : List (Except ε α)) : List ε :=
  results.filterMap fun
    | .error e => some e
    | .ok _ => none

@[simp] theorem successes_nil : successes ([] : List (Except ε α)) = [] := rfl

@[simp] theorem successes_ok_cons (a : α) (rest : List (Except ε α)) :
    successes (.ok a :: rest) = a :: successes rest := rfl

@[simp] theorem successes_error_cons (e : ε) (rest : List (Except ε α)) :
    successes (.error e :: rest) = successes rest := rfl

@[simp] theorem failures_nil : failures ([] : List (Except ε α)) = [] := rfl

@[simp] theorem failures_ok_cons (a : α) (rest : List (Except ε α)) :
    failures (.ok a :: rest) = failures rest := rfl

@[simp] theorem failures_error_cons (e : ε) (rest : List (Except ε α)) :
    failures (.error e :: rest) = e :: failures rest := rfl

end AdExchange
