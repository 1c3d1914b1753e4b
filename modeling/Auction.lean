import Auction.Book.Basic
import Auction.Book.Cascade
import Auction.Book.Json
import Auction.Book.Txn
import Auction.Config.Basic
import Auction.Config.Datum
import Auction.Config.Decode
import Auction.Config.Env
import Auction.Config.Layer
import Auction.Config.Literal
import Auction.Config.Load
import Auction.Config.Timestamp
import Auction.Config.Toml
import Auction.Config.Yaml
import Auction.Config.Yaml.Basic
import Auction.Config.Yaml.Event
import Auction.Config.Yaml.Input
import Auction.Config.Yaml.Node
import Auction.Config.Yaml.Resolve
import Auction.Config.Yaml.Token
import Auction.Console
import Auction.Console.Args
import Auction.Cors
import Auction.Decimal.Basic
import Auction.Decimal.Text
import Auction.Error
import Auction.Event.Basic
import Auction.Event.Json
import Auction.Feed.Listener
import Auction.Feed.Sections
import Auction.Feed.Watchers
import Auction.House.Backoff
import Auction.House.Basic
import Auction.House.KeyValue
import Auction.House.Ledger
import Auction.House.Redis
import Auction.House.Store
import Auction.Increment
import Auction.Json.Basic
import Auction.Json.Decode
import Auction.Json.Fields
import Auction.Json.Parse
import Auction.Listing
import Auction.Main
import Auction.Proofs.Amount
import Auction.Proofs.Book
import Auction.Proofs.Cascade.Outcome
import Auction.Proofs.Cascade.Responder
import Auction.Proofs.Cascade.Round
import Auction.Proofs.Cascade.Run
import Auction.Proofs.Invariant.Lead
import Auction.Proofs.Invariant.Proxy
import Auction.Proofs.Ledger.Chain
import Auction.Proofs.Ledger.Pool
import Auction.Proofs.Ledger.Report
import Auction.Proofs.Service.Closed
import Auction.Proofs.Server
import Auction.Proofs.Service.Commit
import Auction.Proofs.Txn
import Auction.Report
import Auction.Request
import Auction.Scenario.Input
import Auction.Scenario.Run
import Auction.Scenario.Setup
import Auction.Scenario.Step
import Auction.Scenario.Web
import Auction.Schedule
import Auction.Service.AutoBid
import Auction.Service.Close
import Auction.Service.Place
import Auction.Service.Result
import Auction.Service.Retract
import Auction.Table
import Auction.Text
import Auction.Time.Basic
import Auction.Time.Parse
import Auction.Time.Span
import Auction.Unicode
import Auction.Web.Api
import Auction.Web.Exchange
import Auction.Web.Form
import Auction.Web.Url
import Auction.Web.Watch
import Auction.Web.Xml
import Auction.Proofs.Service.Guard
import Auction.Proofs.Wire.Amount
import Auction.Proofs.Wire.Replay
import Auction.Proofs.Wire.Time
import Auction.Proofs.Wire.Book
import Auction.Proofs.Wire.Event
import Auction.Proofs.Ledger.Index
import Auction.Proofs.Ledger.Shared
import Auction.Proofs.Feed.Follow
import Auction.Proofs.Feed.Notice
import Auction.Proofs.Feed.Registry
import Auction.Proofs.Feed.Window
import Auction.Proofs.Retry.Backoff
import Auction.Proofs.Retry.Attempts
import Auction.Proofs.Invariant.Minimum
import Auction.Proofs.Service.StoreKey
import Auction.Proofs.Bands
import Auction.Proofs.Standing
import Auction.Proofs.Store.Expiry
import Auction.Proofs.Store.Shared
