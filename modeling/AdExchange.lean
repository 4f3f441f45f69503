import AdExchange.Adapter.Basic
import AdExchange.Adapter.OpenRtb
import AdExchange.Auction.Basic
import AdExchange.Auction.Log
import AdExchange.Auction.Session
import AdExchange.AuctionError
import AdExchange.Bid
import AdExchange.BidRequest.Basic
import AdExchange.BidRequest.Parties
import AdExchange.BidRequest.Prebid
import AdExchange.BidRequest.Shape
import AdExchange.BidRequest.SupplyChain
import AdExchange.BidResponse
import AdExchange.Category.Mapping
import AdExchange.Category.Store
import AdExchange.Config
import AdExchange.Deadline
import AdExchange.Decimal.Basic
import AdExchange.Decimal.Text
import AdExchange.Dictionary
import AdExchange.Dispatch
import AdExchange.Http
import AdExchange.Http.ContentType
import AdExchange.Http.Request
import AdExchange.Json.Basic
import AdExchange.Json.Merge
import AdExchange.Json.Printer
import AdExchange.Json.Raw
import AdExchange.Json.Reader
import AdExchange.Json.Record
import AdExchange.Json.Shape
import AdExchange.LibraryTexts
import AdExchange.Main
import AdExchange.MockPartner
import AdExchange.MultiBid
import AdExchange.Number.Binary64
import AdExchange.Number.Rounding
import AdExchange.Number.Shortest
import AdExchange.Partner.Catalog
import AdExchange.Partner.Demo
import AdExchange.Partner.Error
import AdExchange.Partner.Response
import AdExchange.Price.Conversion
import AdExchange.Price.Granularity
import AdExchange.Price.Normalization
import AdExchange.Privacy
import AdExchange.Proofs.Ascending
import AdExchange.Proofs.Auction.Attribution
import AdExchange.Proofs.Auction.Blocking
import AdExchange.Proofs.Auction.Budget
import AdExchange.Proofs.Auction.CategoryKeys
import AdExchange.Proofs.Auction.Counts
import AdExchange.Proofs.Auction.CrashReports
import AdExchange.Proofs.Auction.History
import AdExchange.Proofs.Auction.Latency
import AdExchange.Proofs.Auction.Listing
import AdExchange.Proofs.Auction.MatchedImps
import AdExchange.Proofs.Auction.PartnerStatuses
import AdExchange.Proofs.Auction.Prices
import AdExchange.Proofs.Auction.PublishedFields
import AdExchange.Proofs.Auction.Report
import AdExchange.Proofs.Auction.Stages
import AdExchange.Proofs.Auction.Time
import AdExchange.Proofs.BestBids
import AdExchange.Proofs.BidRequest.Parties
import AdExchange.Proofs.BidRequest.Prebid
import AdExchange.Proofs.BidRequest.RoundTrip
import AdExchange.Proofs.BidRequest.Sections
import AdExchange.Proofs.Category.Contest
import AdExchange.Proofs.Category.Deduplication
import AdExchange.Proofs.Category.DistinctKeys
import AdExchange.Proofs.Category.Durations
import AdExchange.Proofs.Category.Idempotence
import AdExchange.Proofs.Category.Kept
import AdExchange.Proofs.Category.Keys
import AdExchange.Proofs.Category.LookupBound
import AdExchange.Proofs.Category.Lookups
import AdExchange.Proofs.Category.Outcome
import AdExchange.Proofs.Category.Places
import AdExchange.Proofs.Category.Unseen
import AdExchange.Proofs.Decimal.Arithmetic
import AdExchange.Proofs.Decimal.Rounding
import AdExchange.Proofs.Decimal.Signs
import AdExchange.Proofs.Decimal.Value
import AdExchange.Proofs.Delays
import AdExchange.Proofs.Dictionaries
import AdExchange.Proofs.Dispatch.Accounts
import AdExchange.Proofs.Dispatch.Endings
import AdExchange.Proofs.Dispatch.Isolation
import AdExchange.Proofs.Dispatch.Round
import AdExchange.Proofs.Dispatch.Validation
import AdExchange.Proofs.Dispatch.Waiting
import AdExchange.Proofs.Json.MergePatch
import AdExchange.Proofs.Json.Printed
import AdExchange.Proofs.Json.Records
import AdExchange.Proofs.Json.RoundTrip
import AdExchange.Proofs.MultiBid
import AdExchange.Proofs.Number.Nearest
import AdExchange.Proofs.Price.BucketOrder
import AdExchange.Proofs.Price.Buckets
import AdExchange.Proofs.Price.Overflow
import AdExchange.Proofs.Price.PriceOrder
import AdExchange.Proofs.Price.Ranges
import AdExchange.Proofs.Price.RateSources
import AdExchange.Proofs.Price.Settlement
import AdExchange.Proofs.Price.Signs
import AdExchange.Proofs.Price.Spellings
import AdExchange.Proofs.Ranks
import AdExchange.Proofs.Results
import AdExchange.Proofs.RuntimeLog
import AdExchange.Proofs.Scope.Classification
import AdExchange.Proofs.Scope.FirstPartyData
import AdExchange.Proofs.Scope.Fragments
import AdExchange.Proofs.Scope.Identifiers
import AdExchange.Proofs.Scope.ImpForms
import AdExchange.Proofs.Scope.Isolation
import AdExchange.Proofs.Scope.Outcome
import AdExchange.Proofs.Scope.Settings
import AdExchange.Proofs.Scope.ShownImps
import AdExchange.Proofs.Scope.Standings
import AdExchange.Proofs.Scope.Visitor
import AdExchange.Proofs.SeatLimits
import AdExchange.Proofs.Seats
import AdExchange.Results
import AdExchange.RuntimeLog
import AdExchange.Scope.Basic
import AdExchange.Scope.ImpPartners
import AdExchange.Scope.PartnerData
import AdExchange.SeatAssembly
import AdExchange.Text.Uppercase
