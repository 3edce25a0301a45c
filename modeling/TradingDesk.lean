import TradingDesk.Api.Client
import TradingDesk.Api.Endpoints
import TradingDesk.Book.Held
import TradingDesk.Book.Prices
import TradingDesk.Book.Valuation
import TradingDesk.Cache.Attempts
import TradingDesk.Cache.Key
import TradingDesk.Cache.Poller
import TradingDesk.Cache.Rehearsal
import TradingDesk.Cache.State
import TradingDesk.Cache.Traffic
import TradingDesk.CommandLine.Command
import TradingDesk.CommandLine.Form
import TradingDesk.CommandLine.Grammar
import TradingDesk.CommandLine.Scan
import TradingDesk.Dashboard.Basic
import TradingDesk.Dashboard.Events
import TradingDesk.Dashboard.Keyboard
import TradingDesk.Dashboard.Terminal
import TradingDesk.Dashboard.View
import TradingDesk.Desk.Basic
import TradingDesk.Desk.Market
import TradingDesk.Desk.Portfolios
import TradingDesk.Desk.Risk
import TradingDesk.Desk.Run
import TradingDesk.Desk.Selections
import TradingDesk.Desk.Workflows
import TradingDesk.Disk
import TradingDesk.Failure
import TradingDesk.Feed.Connection
import TradingDesk.Feed.Link
import TradingDesk.Feed.Message
import TradingDesk.Form.Limits
import TradingDesk.Form.LimitsDialogue
import TradingDesk.Form.OrderDraft
import TradingDesk.Form.Rejection
import TradingDesk.Form.Removal
import TradingDesk.Http.Message
import TradingDesk.Http.Routes
import TradingDesk.Http.Url
import TradingDesk.Http.Wire
import TradingDesk.Json.Basic
import TradingDesk.Json.Decoder
import TradingDesk.Json.Document
import TradingDesk.Json.Error
import TradingDesk.Json.Printer
import TradingDesk.Json.Record
import TradingDesk.Log
import TradingDesk.LogFilter
import TradingDesk.Main
import TradingDesk.Money
import TradingDesk.Number.Exact
import TradingDesk.Number.Reading
import TradingDesk.Number.Shortest
import TradingDesk.Number.Written
import TradingDesk.Payload.Choice
import TradingDesk.Payload.Market
import TradingDesk.Payload.Portfolio
import TradingDesk.Payload.Risk
import TradingDesk.Payload.Trade
import TradingDesk.Payload.Workflow
import TradingDesk.Program
import TradingDesk.Screen.Glyph
import TradingDesk.Screen.Picture
import TradingDesk.Screen.Runs
import TradingDesk.Screen.Wrapped
import TradingDesk.Session.Basic
import TradingDesk.Session.Preferences
import TradingDesk.Session.PreferencesFile
import TradingDesk.Session.Toasts
import TradingDesk.Settings.Basic
import TradingDesk.Settings.EnvFile
import TradingDesk.Settings.File
import TradingDesk.Settings.Load
import TradingDesk.Start
import TradingDesk.Table
import TradingDesk.Text.Blank
import TradingDesk.Text.Lines
import TradingDesk.Text.Quoted
import TradingDesk.Text.Upper
import TradingDesk.Text.Width
import TradingDesk.Time.Civil
import TradingDesk.Time.Duration
import TradingDesk.Watch.Background
import TradingDesk.Watch.Basic
import TradingDesk.Watch.Loop
import TradingDesk.Watch.Stage
import TradingDesk.Yaml.Cursor
import TradingDesk.Yaml.Document
import TradingDesk.Yaml.Scalar
import TradingDesk.Proofs.Cache.History
import TradingDesk.Proofs.Cache.Tally
import TradingDesk.Proofs.Cache.Crowd
import TradingDesk.Proofs.Cache.Sound
import TradingDesk.Proofs.Cache.Barrier
import TradingDesk.Proofs.Cache.Sharing
import TradingDesk.Proofs.Cache.Ledger
import TradingDesk.Proofs.Cache.Callers
import TradingDesk.Proofs.Cache.Fetcher
import TradingDesk.Proofs.Watch.Quiet
import TradingDesk.Proofs.Watch.Told
import TradingDesk.Proofs.Watch.Screen
import TradingDesk.Proofs.Cache.Schedule
import TradingDesk.Proofs.Cache.Part
import TradingDesk.Proofs.Cache.Alone
import TradingDesk.Proofs.Cache.Moves
import TradingDesk.Proofs.Cache.Apart
import TradingDesk.Proofs.Cache.Mutation
import TradingDesk.Proofs.Table
import TradingDesk.Proofs.Feed.Heard
import TradingDesk.Proofs.Feed.Delay
import TradingDesk.Proofs.Feed.Stream
import TradingDesk.Proofs.Number.Rounding
import TradingDesk.Proofs.Number.Worth
import TradingDesk.Proofs.Number.Whole
import TradingDesk.Proofs.Settings.Intervals
import TradingDesk.Proofs.Book.Prices
import TradingDesk.Proofs.Dashboard.Parts
import TradingDesk.Proofs.Dashboard.Quotes
import TradingDesk.Proofs.Watch.Behind
import TradingDesk.Proofs.Dashboard.Prompt
import TradingDesk.Proofs.Dashboard.Selection
import TradingDesk.Proofs.Watch.Removal
import TradingDesk.Proofs.Cache.Moment
import TradingDesk.Proofs.Watch.Front
import TradingDesk.Proofs.Watch.Onward
import TradingDesk.Proofs.Watch.Polled
import TradingDesk.Proofs.Json.Spelling
import TradingDesk.Proofs.Json.Taken
import TradingDesk.Proofs.Json.Fields
import TradingDesk.Proofs.Json.Joined
import TradingDesk.Proofs.Payload.Spelling
import TradingDesk.Proofs.Json.Escaped
import TradingDesk.Proofs.Session.PreferencesFile
import TradingDesk.Proofs.Session.Preferences
import TradingDesk.Proofs.Http.Exchange
import TradingDesk.Proofs.Http.Replies
import TradingDesk.Proofs.Desk.Actions
import TradingDesk.Proofs.Text.Blank
import TradingDesk.Proofs.Form.Orders
import TradingDesk.Proofs.Desk.Orders
import TradingDesk.Proofs.Number.Defined
import TradingDesk.Proofs.Json.Doubles
import TradingDesk.Proofs.Number.Count
import TradingDesk.Proofs.Form.Limits
import TradingDesk.Proofs.Form.Answers
import TradingDesk.Proofs.Desk.Limits
import TradingDesk.Proofs.Session.Selections
import TradingDesk.Proofs.Desk.Selections
import TradingDesk.Proofs.Feed.Status
import TradingDesk.Proofs.Session.Episodes
import TradingDesk.Proofs.Watch.Polling
import TradingDesk.Proofs.Watch.Choices
import TradingDesk.Proofs.Settings.Addresses
import TradingDesk.Proofs.Text.Lines
import TradingDesk.Proofs.Form.Difference
import TradingDesk.Proofs.Form.Editor
import TradingDesk.Proofs.Form.Dialogue
import TradingDesk.Proofs.Feed.Reconnection
import TradingDesk.Proofs.Book.Valuation
import TradingDesk.Proofs.Book.Reconciliation
import TradingDesk.Proofs.Session.Toasts
import TradingDesk.Proofs.Json.Ordered
import TradingDesk.Proofs.Json.Aside
import TradingDesk.Proofs.Json.Agreement
import TradingDesk.Proofs.Feed.Message
import TradingDesk.Proofs.Number.Packed
import TradingDesk.Proofs.Number.Nearest
import TradingDesk.Proofs.Number.Places
import TradingDesk.Proofs.Money.Groups
import TradingDesk.Proofs.Money.Scale
import TradingDesk.Proofs.Dashboard.Events
