import AdExchange.Auction.Session
import AdExchange.Proofs.Auction.Attribution
import AdExchange.Proofs.Auction.CrashReports

/-!
# Auctions leave no trace

An exchange holds one auction after the other, while its catalog is replaced and read anew.  Where
replies do not depend on the calls that were made before, nothing of what has happened is seen in an
auction but the catalog: that is the one that was last put in place as a whole.  Neither an auction
nor a reading that fails changes it, and a catalog that somebody holds on to stays as it was.
-/

namespace AdExchange

/-! ## Earlier calls -/

section Memoryless

variable {t : Transport}

theorem Transport.send_of_memoryless (h : t.Memoryless) (earlier earlier' calls : List HttpCall) :
    t.send earlier calls = t.send earlier' calls := by
  induction calls generalizing earlier earlier' with
  | nil => rfl
  | cons call rest ih => rw [send, send, h earlier earlier' call, ih]

theorem PartnerTurn.of_memoryless (h : t.Memoryless) (catalog : Catalog) (adapters : Adapters)
    (now : Nat) (earlier earlier' : List HttpCall) (q : PartnerRequest) :
    PartnerTurn.of catalog adapters t now earlier q =
      PartnerTurn.of catalog adapters t now earlier' q := by
  simp only [PartnerTurn.of]
  cases Preparation.of catalog adapters q with
  | refused reason => rfl
  | crashed => rfl
  | ready adapter plan => simp only [t.send_of_memoryless h earlier earlier']

theorem turns_of_memoryless (h : t.Memoryless) (catalog : Catalog) (adapters : Adapters)
    (now : Nat) (earlier earlier' : List HttpCall) (requests : List PartnerRequest) :
    turns catalog adapters t now earlier requests =
      turns catalog adapters t now earlier' requests := by
  induction requests generalizing earlier earlier' with
  | nil => rfl
  | cons q rest ih =>
    rw [turns, turns, PartnerTurn.of_memoryless h catalog adapters now earlier earlier' q]
    exact congrArg _ (ih _ _)

/-- An auction does not depend on earlier calls. -/
theorem Exchange.holdAuction_of_memoryless {x : Exchange} (h : x.transport.Memoryless) (now : Nat)
    (earlier earlier' : List HttpCall) (request : BidRequest) (context : AuctionContext) :
    x.holdAuction now earlier request context = x.holdAuction now earlier' request context := by
  have hdispatch : ∀ requests,
      dispatch x.catalog x.adapters x.transport now earlier requests x.texts.crash =
        dispatch x.catalog x.adapters x.transport now earlier' requests x.texts.crash := by
    intro requests
    simp only [dispatch, turns_of_memoryless h x.catalog x.adapters now earlier earlier']
  simp only [holdAuction, hdispatch]

end Memoryless

/-! ## The current catalog -/

/-- The catalog that a step puts in the place of the current one. -/
def SessionStep.newCatalog? : SessionStep → Option Catalog
  | .replace catalog => some catalog
  | .reload (.ok catalog) => some catalog
  | _ => none

/-- The catalog that is current after some steps: the last one that was put in place, or else the
one at the start. -/
def catalogAfter (start : Catalog) (steps : List SessionStep) : Catalog :=
  (steps.filterMap SessionStep.newCatalog?).getLastD start

theorem catalogAfter_cons (start : Catalog) (step : SessionStep) (rest : List SessionStep) :
    catalogAfter start (step :: rest) = catalogAfter (step.newCatalog?.getD start) rest := by
  rw [catalogAfter, catalogAfter]
  cases h : step.newCatalog? with
  | none => rw [List.filterMap_cons_none h, Option.getD_none]
  | some catalog => rw [List.filterMap_cons_some h, List.getLastD_cons, Option.getD_some]

namespace Session

variable {s : Session}

/-- A step leaves the exchange as it is, but for the catalog that it puts in place. -/
theorem exchange_step (s : Session) (step : SessionStep) :
    (s.step step).2.exchange =
      (s.withCatalog (step.newCatalog?.getD s.exchange.catalog)).exchange := by
  cases step with
  | reload source => cases source <;> rfl
  | _ => rfl

/-- So do any steps. -/
theorem exchange_run (s : Session) (steps : List SessionStep) :
    (s.run steps).2.exchange =
      (s.withCatalog (catalogAfter s.exchange.catalog steps)).exchange := by
  induction steps generalizing s with
  | nil => rfl
  | cons step rest ih =>
    rw [catalogAfter_cons]
    refine (ih (s.step step).2).trans ?_
    rw [withCatalog, exchange_step]
    rfl

/-! ## Catalogs that are held on to -/

theorem snapshots_step (s : Session) (step : SessionStep) :
    (s.step step).2.snapshots = match step with
      | .snapshot name => Dictionary.insert s.snapshots name s.exchange.catalog
      | _ => s.snapshots := by
  cases step with
  | reload source => cases source <;> rfl
  | _ => rfl

/-- A catalog that is held on to stays as it is. -/
theorem get?_snapshots_run {name : String} {steps : List SessionStep}
    (h : ∀ step ∈ steps, step ≠ .snapshot name) :
    Dictionary.get? (s.run steps).2.snapshots name = Dictionary.get? s.snapshots name := by
  induction steps generalizing s with
  | nil => rfl
  | cons step rest ih =>
    rw [List.forall_mem_cons] at h
    refine (ih (s := (s.step step).2) h.2).trans ?_
    rw [snapshots_step]
    cases step with
    | snapshot other =>
      have hne : name ≠ other := fun heq => h.1 (heq ▸ rfl)
      exact Dictionary.get?_insert_of_ne _ _ hne
    | _ => rfl

/-! ## All steps -/

theorem length_run (s : Session) (steps : List SessionStep) :
    (s.run steps).1.length = steps.length := by
  induction steps generalizing s with
  | nil => rfl
  | cons step rest ih => simp [run, ih]

theorem run_append (s : Session) (before after : List SessionStep) :
    s.run (before ++ after) =
      ((s.run before).1 ++ ((s.run before).2.run after).1, ((s.run before).2.run after).2) := by
  induction before generalizing s with
  | nil => rfl
  | cons step rest ih => simp [run, ih]

/-- What a step answers that comes after others. -/
theorem getElem?_run (s : Session) (before : List SessionStep) (step : SessionStep)
    (after : List SessionStep) :
    (s.run (before ++ step :: after)).1[before.length]? = some ((s.run before).2.step step).1 := by
  rw [run_append, List.getElem?_append_right (Nat.le_of_eq (length_run s before)), length_run,
    Nat.sub_self]
  rfl

/-- The exchange of a session that has just been set up, in a process that has started so many tasks
to ask partners. -/
def fresh (exchange : Exchange) (now tasks : Nat) : Session := { exchange, now, tasks }

/-- What else a process has done is seen in an auction in nothing but what the runtime says of the
tasks that crash. -/
theorem holdAuction_fresh (exchange : Exchange) (now tasks tasks' : Nat) (order : AuctionOrder) :
    ((fresh exchange now tasks).holdAuction order).1.SameButForReports
      ((fresh exchange now tasks').holdAuction order).1 :=
  (exchange.withReports (exchange.texts.after tasks').crash).holdAuction_withReports
    (exchange.texts.after tasks).crash _ _ _ _

/-- Whatever has happened before, an auction answers as on an exchange that has just been set up
with the catalog that was last put in place, at the same time and in the same process.  In a process
that has started more or fewer tasks, nothing is different but what the runtime says of those that
crash: it numbers them.  Neither an auction nor a reading of the catalog that fails changes what is
current, and a catalog that somebody holds on to is the one that was current when it was taken. -/
theorem run_leaves_no_trace (h : s.exchange.transport.Memoryless) (before : List SessionStep) :
    let current := catalogAfter s.exchange.catalog before
    let reached := (s.run before).2
    reached.exchange = (s.withCatalog current).exchange ∧
    (∀ order after,
      let anew (tasks : Nat) : AuctionRun :=
        ((fresh (s.withCatalog current).exchange reached.now tasks).holdAuction order).1
      (s.run (before ++ .auction order :: after)).1[before.length]? =
        some (.auction (anew reached.tasks)) ∧
      ∀ tasks, (anew reached.tasks).SameButForReports (anew tasks)) ∧
    (∀ order, (s.run (before ++ [.auction order])).2.exchange = reached.exchange) ∧
    (∀ e, (s.run (before ++ [.reload (.error e)])).2 = reached) ∧
    (∀ name during after, (∀ step ∈ during, step ≠ .snapshot name) →
      (s.run (before ++ .snapshot name :: during ++ .inspect name :: after)).1[
        (before ++ .snapshot name :: during).length]? = some (.catalog current)) := by
  intro current reached
  have hexchange : reached.exchange = (s.withCatalog current).exchange := exchange_run s before
  refine ⟨hexchange, ?_, ?_, ?_, ?_⟩
  · intro order after anew
    refine ⟨?_, fun tasks => holdAuction_fresh _ _ _ _ _⟩
    have hrun : (reached.holdAuction order).1 = anew reached.tasks := by
      simp only [holdAuction, hexchange, anew, fresh]
      exact Exchange.holdAuction_of_memoryless (x := { (s.withCatalog current).exchange with
        texts := (s.withCatalog current).exchange.texts.after reached.tasks }) h _ _ _ _ _
    rw [getElem?_run, ← hrun]
    rfl
  · intro order
    rw [run_append]
    exact exchange_step reached (.auction order)
  · intro e
    rw [run_append]
    rfl
  · intro name during after hduring
    have htaken : (s.run (before ++ .snapshot name :: during)).2 =
        ((reached.step (.snapshot name)).2.run during).2 := by
      rw [run_append]
      rfl
    have hheld : Dictionary.get? (s.run (before ++ .snapshot name :: during)).2.snapshots name =
        some current := by
      rw [htaken, get?_snapshots_run hduring, snapshots_step, hexchange]
      exact Dictionary.get?_insert_self _ _ _
    rw [getElem?_run, step, hheld]
    rfl

def orderTwice : AuctionOrder := { request := Exchange.namesTwice }

/-- An exchange that has just been set up. -/
def openSession : Session := { exchange := .allBid Exchange.strayBids }

/-- An auction; then the catalog cannot be read, somebody holds on to it, and an empty one takes its
place. -/
def emptied : List SessionStep :=
  [.auction orderTwice, .reload (.error (.refused "down")), .snapshot "old", .replace {}]

def seatsOf : SessionAnswer → Option (List (Option String))
  | .auction run => run.outcome.toOption.map fun response => response.seatBids.map (·.seat)
  | _ => none

/-- The auction after that has no seats, as on an exchange without partners, and the old catalog is
still there.  The first auction has started two tasks. -/
theorem run_leaves_no_trace_emptied :
    let anew (tasks : Nat) : AuctionRun :=
      ((fresh (openSession.withCatalog {}).exchange 0 tasks).holdAuction orderTwice).1
    (openSession.run (emptied ++ [.auction orderTwice])).1.map seatsOf =
      [some [some "other", some "a"], none, none, none, some []] ∧
    (openSession.run (emptied ++ [.auction orderTwice])).1[4]? = some (.auction (anew 2)) ∧
    (anew 2).SameButForReports (anew 0) ∧
    (openSession.run (emptied ++ [.inspect "old"])).1[4]? =
      some (.catalog openSession.exchange.catalog) := by
  intro anew
  have hmemoryless : openSession.exchange.transport.Memoryless := fun _ _ _ => rfl
  obtain ⟨hauction, hanew⟩ := (run_leaves_no_trace hmemoryless emptied).2.1 orderTwice []
  refine ⟨rfl, hauction, hanew 0, ?_⟩
  refine (run_leaves_no_trace hmemoryless (emptied.take 2)).2.2.2.2 "old" [.replace {}] [] ?_
  intro step hstep heq
  rw [List.mem_singleton.1 hstep] at heq
  cases heq

end Session

end AdExchange
