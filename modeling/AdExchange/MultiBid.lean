import AdExchange.BidRequest.Prebid

/-!
# Multibid

A request may declare how many bids a bidder may return for one imp.  The first valid declaration
for a bidder counts; whatever is wrong with the others is only warned of.
-/

namespace AdExchange

/-- How many bids a bidder may return for one imp. -/
structure MultiBid where
  bidder : String
  maxBids : UInt32
  /-- What the bidder's further bids are listed under. -/
  targetBidderCodePrefix : Option String := none
  deriving DecidableEq, Inhabited

/-- What is wrong with a multibid declaration. -/
inductive MultiBidWarning where
  /-- A bidder and a list of bidders are given. -/
  | bothForms (bidder : String) (bidders : List String)
  /-- A single bidder has no limit. -/
  | noLimit (bidder : String)
  /-- A list of bidders has no limit. -/
  | noLimits (bidders : List String)
  /-- The bidder already has a setting. -/
  | repeated (bidder : String)
  /-- A list of bidders cannot have a code prefix. -/
  | prefixIgnored (codePrefix : String) (bidders : List String)
  /-- Neither a bidder nor a list of bidders is given. -/
  | noBidder
  deriving DecidableEq, Inhabited

namespace MultiBidWarning

/-- The names of a list of bidders. -/
def listText (bidders : List String) : String := "[" ++ String.intercalate ", " bidders ++ "]"

def message : MultiBidWarning → String
  | .bothForms bidder bidders =>
    "Invalid MultiBid: bidder " ++ bidder ++ " and bidders " ++ listText bidders ++
      " specified. Only bidder " ++ bidder ++ " will be used."
  | .noLimit bidder =>
    "Invalid MultiBid: MaxBids for bidder " ++ bidder ++ " is not specified and will be skipped."
  | .noLimits bidders =>
    "Invalid MultiBid: MaxBids for bidders " ++ listText bidders ++
      " is not specified and will be skipped."
  | .repeated bidder => "Invalid MultiBid: Bidder " ++ bidder ++ " specified multiple times."
  | .prefixIgnored codePrefix bidders =>
    "Invalid MultiBid: CodePrefix " ++ codePrefix ++ " that was specified for bidders " ++
      listText bidders ++ " will be skipped."
  | .noBidder =>
    "Invalid MultiBid: Bidder or bidders should be specified and will be skipped."

end MultiBidWarning

namespace MultiBid

/-- Settings by bidder, with the warnings so far. -/
structure Resolution where
  configs : Dictionary MultiBid := []
  warnings : List MultiBidWarning := []
  deriving Inhabited

namespace Resolution

def warn (r : Resolution) (w : MultiBidWarning) : Resolution :=
  { r with warnings := r.warnings ++ [w] }

/-- Makes a setting, unless its bidder has one. -/
def set (r : Resolution) (config : MultiBid) : Resolution :=
  if Dictionary.contains r.configs config.bidder then r.warn (.repeated config.bidder)
  else { r with configs := Dictionary.insert r.configs config.bidder config }

/-- Follows one more declaration. -/
def declare (r : Resolution) (d : MultiBidDeclaration) : Resolution :=
  match d.bidder, d.bidders.getD [] with
  | some bidder, bidders =>
    let r := if bidders.isEmpty then r else r.warn (.bothForms bidder bidders)
    match d.maxBids with
    | none => r.warn (.noLimit bidder)
    | some maxBids => r.set ⟨bidder, maxBids, d.targetBidderCodePrefix⟩
  | none, [] => r.warn .noBidder
  | none, bidders =>
    let r := match d.targetBidderCodePrefix with
      | some p => r.warn (.prefixIgnored p bidders)
      | none => r
    match d.maxBids with
    | none => r.warn (.noLimits bidders)
    | some maxBids => bidders.foldl (fun r bidder => r.set ⟨bidder, maxBids, none⟩) r

end Resolution

/-- The settings that a list of declarations makes, and what is wrong with them. -/
def resolve (declarations : List MultiBidDeclaration) : Resolution :=
  declarations.foldl Resolution.declare {}

/-- The declaration of a setting, for the bidder itself. -/
def toDeclaration (m : MultiBid) : MultiBidDeclaration where
  bidder := some m.bidder
  maxBids := some m.maxBids
  targetBidderCodePrefix := m.targetBidderCodePrefix

end MultiBid

end AdExchange
