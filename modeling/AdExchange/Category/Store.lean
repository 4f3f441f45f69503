import AdExchange.Deadline
import AdExchange.Json.Record

/-!
# What categories are called elsewhere

An ad server has its own names for the categories of advertisements, and so has each publisher.
A store knows for an ad server and a publisher how a bidder's category is called there.  Asking it
takes time and may fail.
-/

namespace AdExchange

open RawJson

/-- An ad server for which categories are translated. -/
inductive PrimaryAdServer where
  | freewheel
  | dfp
  deriving DecidableEq, Repr, Inhabited

namespace PrimaryAdServer

def ofId? (id : Int32) : Option PrimaryAdServer :=
  if id = 1 then some .freewheel else if id = 2 then some .dfp else none

def name : PrimaryAdServer → String
  | .freewheel => "freewheel"
  | .dfp => "dfp"

end PrimaryAdServer

/-- Translated categories by ad server, publisher and category. -/
abbrev CategoryTable := Dictionary (Dictionary (Dictionary String))

namespace CategoryTable

/-- What a category is called by an ad server for a publisher. -/
def translate? (t : CategoryTable) (adServer publisher category : String) : Option String :=
  ((Dictionary.get? t adServer).bind (Dictionary.get? · publisher)).bind
    (Dictionary.get? · category)

/-- The table with one more translated category, which takes the place of one that is there. -/
def add (t : CategoryTable) (adServer publisher category translated : String) : CategoryTable :=
  let publishers := (Dictionary.get? t adServer).getD []
  let categories := (Dictionary.get? publishers publisher).getD []
  Dictionary.insert t adServer
    (Dictionary.insert publishers publisher (Dictionary.insert categories category translated))

def read? (v : RawJson) : Option CategoryTable := v.dictionary? (dictionary? (dictionary? string?))

def toJson (t : CategoryTable) : Json :=
  Json.dictionary (Json.dictionary (Json.dictionary .string)) t

end CategoryTable

/-- Why a store has no answer. -/
inductive StoreError where
  /-- The store failed. -/
  | failed (message : String)
  /-- The answer did not come in time. -/
  | timeout
  deriving DecidableEq, Inhabited

def StoreError.message : StoreError → String
  | .failed message => message
  | .timeout => "Timeout"

/-- Knows how categories are called; an answer takes its time. -/
structure CategoryStore where
  lookup : (adServer publisher category : String) → Timed (Except StoreError (Option String))

/-- Answers from a table at once. -/
def CategoryStore.ofTable (t : CategoryTable) : CategoryStore where
  lookup adServer publisher category := ⟨0, .ok (t.translate? adServer publisher category)⟩

end AdExchange
