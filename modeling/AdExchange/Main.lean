import AdExchange.Adapter.OpenRtb
import AdExchange.Http
import AdExchange.MockPartner
import AdExchange.Partner.Demo

/-!
# The command line

`--config FILE` names the settings of an exchange, which name the files with its partners and
categories.  With `--demo` the partners are made up, and the mock partner answers for all of them;
otherwise nobody can be reached.  Each line of the standard input is a bid request, and is answered
by a line with the HTTP status and the body of the answer.
-/

namespace AdExchange

/-- What the arguments ask for. -/
structure Options where
  config : Option String := none
  demo : Bool := false
  deriving DecidableEq, Inhabited

namespace Options

/-- What the arguments ask for; `none` if they are not understood. -/
def parse? : List String → Option Options
  | [] => some {}
  | "--demo" :: rest => (parse? rest).map fun o => { o with demo := true }
  | "--config" :: path :: rest => (parse? rest).map fun o => { o with config := some path }
  | _ => none

end Options

/-- The made-up partners of a demonstration. -/
def demoPartners : List PartnerDraw :=
  [{ letters := "aurora", enabled := true, extraTime := some 100 },
   { letters := "borealis", enabled := true, currency := "EUR" },
   { letters := "corona", enabled := false, currency := "GBP" }]

/-- The exchange that the options ask for. -/
def exchangeOf (o : Options) (config : ExchangeConfig) (catalog : Catalog)
    (categories : CategoryTable) : Exchange where
  config
  catalog := if o.demo then demoCatalog "http://127.0.0.1:9001/bid" demoPartners else catalog
  adapters := fun name => if name = "openrtb" then some OpenRtb.adapter else none
  transport := if o.demo then .mock 20 fun imp => .low imp.id else .offline
  store := .ofTable categories
  rates := config.currencyRates

def answerLine (x : Exchange) (line : String) : String :=
  let request : HttpRequest :=
    { method := "POST", path := auctionPath, body := line.toUTF8.toList }
  match (x.serve 0 [] request).1 with
  | some result => toString result.status ++ " " ++ (result.body.getD .null).text
  | none => "500 null"

/-- Reads a file, which may not be there. -/
def readConfigFile (path : String) : IO ConfigFile := do
  try
    return ⟨path, some (← IO.FS.readFile path)⟩
  catch _ =>
    return ⟨path, none⟩

/-- Sets up the exchange that the options ask for. -/
def setUp (o : Options) : IO (Except ConfigError Exchange) := do
  let files : ConfigFiles := { exchange := ← o.config.mapM readConfigFile }
  match files.loadExchange with
  | .error e => return .error e
  | .ok config =>
    let files : ConfigFiles :=
      { files with
        partners := ← (if o.demo then none else config.partnersFile).mapM readConfigFile
        categories := ← config.categoriesFile.mapM readConfigFile }
    return do
      let (config, catalog) ← files.load
      return exchangeOf o config catalog (← files.loadCategories)

/-- Answers the lines of the standard input until it ends. -/
partial def serveLines (x : Exchange) : IO Unit := do
  let line ← (← IO.getStdin).getLine
  if line.isEmpty then return
  IO.println (answerLine x line)
  serveLines x

end AdExchange

def main (args : List String) : IO UInt32 := do
  match AdExchange.Options.parse? args with
  | none =>
    IO.eprintln "usage: [--config FILE] [--demo]"
    return 2
  | some options =>
    match ← AdExchange.setUp options with
    | .error e =>
      IO.eprintln e.message
      return 1
    | .ok exchange =>
      AdExchange.serveLines exchange
      return 0
