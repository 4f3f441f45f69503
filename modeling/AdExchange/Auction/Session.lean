import AdExchange.Auction.Basic

/-!
# Auctions and a changing catalog

The catalog of an exchange can be replaced while the exchange runs.  An auction uses the catalog
that is current when it starts, and a catalog that somebody holds on to never changes.
-/

namespace AdExchange

/-- An exchange in time. -/
structure Session where
  exchange : Exchange
  now : Nat := 0
  /-- The calls made so far. -/
  calls : List HttpCall := []
  /-- How many tasks that ask a partner have been started so far. -/
  tasks : Nat := 0
  /-- Catalogs that are held on to, by name. -/
  snapshots : Dictionary Catalog := []

/-- The auction that a caller asks for. -/
structure AuctionOrder where
  request : BidRequest
  account : Option String := none
  timeoutMs : Option UInt64 := none
  /-- How long the request lies before its auction starts. -/
  lateMs : Nat := 0

/-- What happens to an exchange. -/
inductive SessionStep where
  | auction (order : AuctionOrder)
  | advance (ms : Nat)
  /-- Another catalog takes the place of the current one. -/
  | replace (catalog : Catalog)
  /-- The catalog is read anew, which may fail. -/
  | reload (source : Except ConfigError Catalog)
  /-- Holds on to the current catalog. -/
  | snapshot (name : String)
  /-- Looks at a catalog that is held on to. -/
  | inspect (name : String)

/-- What a step answers. -/
inductive SessionAnswer where
  | none
  | auction (run : AuctionRun)
  /-- A catalog, the current one or one that is held on to. -/
  | catalog (c : Catalog)
  /-- How many partners were read, or why none were, and the catalog that is current then. -/
  | reloaded (count : Except ConfigError Nat) (now : Catalog)

namespace Session

def withCatalog (s : Session) (catalog : Catalog) : Session :=
  { s with exchange := { s.exchange with catalog } }

/-- Holds an auction; time goes on to its end.  One task is started for each partner that is
asked. -/
def holdAuction (s : Session) (o : AuctionOrder) : AuctionRun × Session :=
  let context : AuctionContext :=
    { account := o.account, startTime := s.now, timeoutMs := o.timeoutMs }
  let exchange := { s.exchange with texts := s.exchange.texts.after s.tasks }
  let run := exchange.holdAuction (s.now + o.lateMs) s.calls o.request context
  (run, { s with
    now := run.finished
    calls := s.calls ++ run.calls
    tasks := s.tasks + run.log.partnerLogs.length })

/-- What a step does and answers. -/
def step (s : Session) : SessionStep → SessionAnswer × Session
  | .auction o =>
    let (run, s) := s.holdAuction o
    (.auction run, s)
  | .advance ms => (.none, { s with now := s.now + ms })
  | .replace catalog => (.catalog catalog, s.withCatalog catalog)
  | .reload (.ok catalog) =>
    (.reloaded (.ok catalog.partners.length) catalog, s.withCatalog catalog)
  | .reload (.error e) => (.reloaded (.error e) s.exchange.catalog, s)
  | .snapshot name =>
    (.catalog s.exchange.catalog,
      { s with snapshots := Dictionary.insert s.snapshots name s.exchange.catalog })
  | .inspect name => ((Dictionary.get? s.snapshots name).elim .none .catalog, s)

/-- What a list of steps answers, one after the other. -/
def run (s : Session) : List SessionStep → List SessionAnswer × Session
  | [] => ([], s)
  | step :: rest =>
    let (answer, s) := s.step step
    let (answers, s) := s.run rest
    (answer :: answers, s)

end Session

end AdExchange
