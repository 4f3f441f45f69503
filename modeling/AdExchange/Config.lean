import AdExchange.Category.Store
import AdExchange.Json.Reader
import AdExchange.LibraryTexts
import AdExchange.Partner.Catalog
import AdExchange.Price.Conversion

/-!
# Configuration of an exchange

Settings, partners and categories come from files.  A setting that a file does not mention has its
default.
-/

namespace AdExchange

open RawJson FieldRule

/-- Why a configuration is refused. -/
inductive ConfigError where
  /-- A file cannot be read. -/
  | unreadable (path : String)
  /-- A file does not have its form. -/
  | malformed (path : String)
  /-- A time that has to be positive is zero. -/
  | timeoutsNotPositive
  /-- Caching takes all the time that an auction can have. -/
  | cacheTimeTooLong (cacheTime maxTimeout : UInt64)
  /-- The default currency is no currency code. -/
  | notACurrency (currency : String)
  /-- Refused by whoever supplies the configuration. -/
  | refused (reason : String)
  deriving DecidableEq, Inhabited

def ConfigError.message (e : ConfigError) (texts : LibraryTexts := {}) : String :=
  let detail (path : String) := (texts.badFile path).elim "" (": " ++ ·)
  match e with
  | .unreadable path => "Unable to read " ++ path ++ detail path
  | .malformed path => "Unable to parse " ++ path ++ detail path
  | .timeoutsNotPositive => "Invalid configuration: timeouts must be positive"
  | .cacheTimeTooLong cacheTime maxTimeout =>
    "Invalid configuration: expected_cache_time_ms (" ++ toString cacheTime.toNat ++
      ") must be less than max_timeout_ms (" ++ toString maxTimeout.toNat ++ ")"
  | .notACurrency currency =>
    "Invalid configuration: default_currency must be an ISO-4217 code, got '" ++ currency ++ "'"
  | .refused reason => "Invalid configuration: " ++ reason

/-- The settings of an exchange. -/
structure ExchangeConfig where
  /-- The time of an auction whose request asks for none, in milliseconds. -/
  defaultTimeoutMs : UInt64 := 500
  maxTimeoutMs : UInt64 := 3000
  /-- What is kept back of an auction's time if its bids are to be cached. -/
  expectedCacheTimeMs : UInt64 := 0
  /-- The currency of responses to requests that list none. -/
  defaultCurrency : String := "USD"
  categoryLookupTimeoutMs : UInt64 := 50
  currencyRates : Rates := []
  partnersFile : Option String := none
  categoriesFile : Option String := none
  /-- How often the partners are read anew; never if zero. -/
  catalogReloadSecs : UInt64 := 0
  deriving Inhabited

namespace ExchangeConfig

/-- Reads settings; what is missing has its default. -/
def read? (v : RawJson) : Option ExchangeConfig := do
  let m ← v.closedRecord?
    [omitted "default_timeout_ms", omitted "max_timeout_ms", omitted "expected_cache_time_ms",
     omitted "default_currency", omitted "category_lookup_timeout_ms", omitted "currency_rates",
     omitted "partners_file", omitted "categories_file", omitted "catalog_reload_secs"]
  let base : ExchangeConfig := {}
  return {
    defaultTimeoutMs := ← m.withDefault? "default_timeout_ms" base.defaultTimeoutMs uint64?
    maxTimeoutMs := ← m.withDefault? "max_timeout_ms" base.maxTimeoutMs uint64?
    expectedCacheTimeMs :=
      ← m.withDefault? "expected_cache_time_ms" base.expectedCacheTimeMs uint64?
    defaultCurrency := ← m.withDefault? "default_currency" base.defaultCurrency string?
    categoryLookupTimeoutMs :=
      ← m.withDefault? "category_lookup_timeout_ms" base.categoryLookupTimeoutMs uint64?
    currencyRates := ← m.withDefault? "currency_rates" base.currencyRates Rates.read?
    partnersFile := ← m.optional? "partners_file" string?
    categoriesFile := ← m.optional? "categories_file" string?
    catalogReloadSecs := ← m.withDefault? "catalog_reload_secs" base.catalogReloadSecs uint64? }

def toJson (c : ExchangeConfig) : Json :=
  .ofFields
    [("default_timeout_ms", some (.nat c.defaultTimeoutMs.toNat)),
     ("max_timeout_ms", some (.nat c.maxTimeoutMs.toNat)),
     ("expected_cache_time_ms", some (.nat c.expectedCacheTimeMs.toNat)),
     ("default_currency", some (.string c.defaultCurrency)),
     ("category_lookup_timeout_ms", some (.nat c.categoryLookupTimeoutMs.toNat)),
     ("currency_rates", some c.currencyRates.toJson),
     ("partners_file", some (c.partnersFile.elim .null .string)),
     ("categories_file", some (c.categoriesFile.elim .null .string)),
     ("catalog_reload_secs", some (.nat c.catalogReloadSecs.toNat))]

/-- Checks that the settings fit together.  A currency code has three octets. -/
def validate (c : ExchangeConfig) : Except ConfigError Unit :=
  if c.defaultTimeoutMs = 0 ∨ c.maxTimeoutMs = 0 then .error .timeoutsNotPositive
  else if c.maxTimeoutMs ≤ c.expectedCacheTimeMs then
    .error (.cacheTimeTooLong c.expectedCacheTimeMs c.maxTimeoutMs)
  else if c.defaultCurrency.utf8ByteSize ≠ 3 then .error (.notACurrency c.defaultCurrency)
  else .ok ()

/-- The time that an auction gets: what is asked for, else the default, and never more than the
maximum.  To ask for no time at all is to ask for nothing. -/
def resolveTimeout (c : ExchangeConfig) (requested : Option UInt64) : UInt64 :=
  min ((requested.filter (0 < ·)).getD c.defaultTimeoutMs) c.maxTimeoutMs

end ExchangeConfig

/-- A file, which may not be there. -/
structure ConfigFile where
  path : String
  /-- The text of the file, if it can be read. -/
  text : Option String
  deriving Inhabited

namespace ConfigFile

/-- Reads a type from a file. -/
def load {α : Type} (f : ConfigFile) (read : RawJson → Option α) : Except ConfigError α :=
  match f.text with
  | none => .error (.unreadable f.path)
  | some text =>
    match (RawJson.parseText? text).bind read with
    | none => .error (.malformed f.path)
    | some a => .ok a

end ConfigFile

/-- The files of an exchange, as far as there are any. -/
structure ConfigFiles where
  exchange : Option ConfigFile := none
  partners : Option ConfigFile := none
  categories : Option ConfigFile := none
  deriving Inhabited

namespace ConfigFiles

/-- The settings, checked. -/
def loadExchange (f : ConfigFiles) : Except ConfigError ExchangeConfig := do
  let config ← match f.exchange with
    | some file => file.load ExchangeConfig.read?
    | none => .ok {}
  config.validate
  return config

def loadPartners (f : ConfigFiles) : Except ConfigError Catalog :=
  match f.partners with
  | some file => file.load Catalog.read?
  | none => .ok {}

def loadCategories (f : ConfigFiles) : Except ConfigError CategoryTable :=
  match f.categories with
  | some file => file.load CategoryTable.read?
  | none => .ok []

/-- Settings and partners, as an exchange starts with them. -/
def load (f : ConfigFiles) : Except ConfigError (ExchangeConfig × Catalog) := do
  let config ← f.loadExchange
  let catalog ← f.loadPartners
  return (config, catalog)

end ConfigFiles

end AdExchange
