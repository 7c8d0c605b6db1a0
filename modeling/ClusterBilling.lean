import ClusterBilling.Arithmetic
import ClusterBilling.Asked
import ClusterBilling.Billing.Cluster
import ClusterBilling.Billing.Estimate
import ClusterBilling.Billing.Gate
import ClusterBilling.Billing.Group
import ClusterBilling.Billing.Instance
import ClusterBilling.Billing.Interleaved
import ClusterBilling.Billing.SurchargeModel
import ClusterBilling.Billing.Turn
import ClusterBilling.Breakdown
import ClusterBilling.Breakdown.Codec
import ClusterBilling.Catalog.Basic
import ClusterBilling.Catalog.Files
import ClusterBilling.Catalog.Store
import ClusterBilling.CommandLine.Argument
import ClusterBilling.CommandLine.Arguments
import ClusterBilling.CommandLine.Program
import ClusterBilling.CommandLine.Reader
import ClusterBilling.CommandLine.Settings
import ClusterBilling.Decimal.Binary
import ClusterBilling.Decimal.Reader
import ClusterBilling.Decimal.Shortest
import ClusterBilling.Fault
import ClusterBilling.Files.Document
import ClusterBilling.Files.Path
import ClusterBilling.Files.Resource
import ClusterBilling.Files.Tree
import ClusterBilling.Gzip.Inflate
import ClusterBilling.Gzip.Member
import ClusterBilling.Inventory.Codec
import ClusterBilling.Inventory.Names
import ClusterBilling.Inventory.Record
import ClusterBilling.Inventory.Recording
import ClusterBilling.Inventory.Source
import ClusterBilling.Json.Bytes
import ClusterBilling.Json.Reader
import ClusterBilling.Json.Record
import ClusterBilling.Json.Value
import ClusterBilling.Json.Writer
import ClusterBilling.Main
import ClusterBilling.OrderedMap
import ClusterBilling.PriceList.Download
import ClusterBilling.PriceList.Offer
import ClusterBilling.PriceList.Regions
import ClusterBilling.Proofs.Billing.Accounts
import ClusterBilling.Proofs.Billing.Alone
import ClusterBilling.Proofs.Billing.Clock
import ClusterBilling.Proofs.Billing.Conservation
import ClusterBilling.Proofs.Billing.InListingOrder
import ClusterBilling.Proofs.Billing.Offline
import ClusterBilling.Proofs.Billing.OneByOne
import ClusterBilling.Proofs.Billing.Replayed
import ClusterBilling.Proofs.Billing.SideBySide
import ClusterBilling.Proofs.Billing.Windows
import ClusterBilling.Proofs.Binary
import ClusterBilling.Proofs.Breakdown
import ClusterBilling.Proofs.Breakdown.Balance
import ClusterBilling.Proofs.Breakdown.Combining
import ClusterBilling.Proofs.Breakdown.Making
import ClusterBilling.Proofs.Breakdown.Roles
import ClusterBilling.Proofs.Catalog.Finite
import ClusterBilling.Proofs.Catalog.Store
import ClusterBilling.Proofs.CommandLine.Estimating
import ClusterBilling.Proofs.Decimal.Overflow
import ClusterBilling.Proofs.Decimal.Reading
import ClusterBilling.Proofs.Exact
import ClusterBilling.Proofs.Files.Path
import ClusterBilling.Proofs.Files.Resource
import ClusterBilling.Proofs.Files.Writing
import ClusterBilling.Proofs.Gzip.Stored
import ClusterBilling.Proofs.Inventory.Failures
import ClusterBilling.Proofs.Inventory.Notes
import ClusterBilling.Proofs.Inventory.Replay
import ClusterBilling.Proofs.Inventory.RoundTrip
import ClusterBilling.Proofs.Inventory.Steady
import ClusterBilling.Proofs.Json.Fields
import ClusterBilling.Proofs.Json.Maps
import ClusterBilling.Proofs.OrderedMap
import ClusterBilling.Proofs.PriceList.Downloading
import ClusterBilling.Proofs.PriceList.Indexing
import ClusterBilling.Proofs.PriceList.Offers
import ClusterBilling.Proofs.PriceList.Requests
import ClusterBilling.Proofs.Rates.Rows
import ClusterBilling.Proofs.Rates.Tables
import ClusterBilling.Proofs.Retry
import ClusterBilling.Proofs.Service.Answers
import ClusterBilling.Proofs.Service.Cache
import ClusterBilling.Proofs.Service.Fresh
import ClusterBilling.Proofs.Service.Memory
import ClusterBilling.Proofs.Service.Moves
import ClusterBilling.Proofs.Service.Naming
import ClusterBilling.Proofs.Service.Requests
import ClusterBilling.Proofs.Service.Selection
import ClusterBilling.Proofs.Service.Settled
import ClusterBilling.Proofs.Service.Slots
import ClusterBilling.Proofs.Service.Steps
import ClusterBilling.Proofs.Service.Windowed
import ClusterBilling.Proofs.Spot.Additivity
import ClusterBilling.Proofs.Spot.Attempts
import ClusterBilling.Proofs.Spot.Coverage
import ClusterBilling.Proofs.Spot.Curve
import ClusterBilling.Proofs.Spot.Exchanges
import ClusterBilling.Proofs.Spot.Integral
import ClusterBilling.Proofs.Spot.Pages
import ClusterBilling.Proofs.Spot.Paging
import ClusterBilling.Proofs.Spot.Queries
import ClusterBilling.Proofs.Spot.Recency
import ClusterBilling.Proofs.Spot.Transparency
import ClusterBilling.Proofs.Text.ByteOrder
import ClusterBilling.Proofs.Text.Trimming
import ClusterBilling.Proofs.Time.Calendar
import ClusterBilling.Proofs.Time.Cut
import ClusterBilling.Proofs.Time.Notation
import ClusterBilling.Rates.Storage
import ClusterBilling.Rates.Surcharge
import ClusterBilling.Report.Colour
import ClusterBilling.Report.Estimates
import ClusterBilling.Report.InstanceInfo
import ClusterBilling.Report.Table
import ClusterBilling.Retry
import ClusterBilling.Service.Concurrent
import ClusterBilling.Service.CostService
import ClusterBilling.Service.ResultCache
import ClusterBilling.Service.Selection
import ClusterBilling.Spot.Book
import ClusterBilling.Spot.Codec
import ClusterBilling.Spot.Fetch
import ClusterBilling.Spot.History
import ClusterBilling.Spot.Recording
import ClusterBilling.Spot.Source
import ClusterBilling.Text.Blank
import ClusterBilling.Text.Case
import ClusterBilling.Text.CaseTable
import ClusterBilling.Text.Following
import ClusterBilling.Text.JoiningTable
import ClusterBilling.Text.PictureTable
import ClusterBilling.Text.Width
import ClusterBilling.Text.WidthTable
import ClusterBilling.Time.Calendar
import ClusterBilling.Time.Duration
import ClusterBilling.Time.Instant
import ClusterBilling.Time.Notation
import ClusterBilling.Time.Reader
import ClusterBilling.Time.Window
import ClusterBilling.Workload
