import ResourceWatch.Clock
import ResourceWatch.Config.Arguments
import ResourceWatch.Config.Basic
import ResourceWatch.Config.Environment
import ResourceWatch.Config.Sources
import ResourceWatch.Counter
import ResourceWatch.Decimal
import ResourceWatch.Error
import ResourceWatch.Json.Basic
import ResourceWatch.Json.Reader
import ResourceWatch.Json.Schema
import ResourceWatch.Json5
import ResourceWatch.Listing.Page
import ResourceWatch.Listing.Options
import ResourceWatch.Listing.Traversal
import ResourceWatch.Report
import ResourceWatch.Resource
import ResourceWatch.Rest
import ResourceWatch.Script.Provider
import ResourceWatch.Script.Run
import ResourceWatch.Text
import ResourceWatch.Toml.Parser
import ResourceWatch.Toml.Scalar
import ResourceWatch.World
import ResourceWatch.Unicode.Normal
import ResourceWatch.Unicode.Property
import ResourceWatch.Unicode.Folding
import ResourceWatch.Unicode.Table
import ResourceWatch.Url.Basic
import ResourceWatch.Url.Domain
import ResourceWatch.Url.Parser
import ResourceWatch.Url.Path
import ResourceWatch.Wait.Basic
import ResourceWatch.Wait.Poll
import ResourceWatch.Proofs.Surroundings
import ResourceWatch.Proofs.Wait.Attempt
import ResourceWatch.Proofs.Wait.Schedule
import ResourceWatch.Proofs.Wait.Cut
import ResourceWatch.Proofs.Wait.Pace
import ResourceWatch.Proofs.Listing.Pull
import ResourceWatch.Proofs.Listing.Course
import ResourceWatch.Proofs.Listing.Cut
import ResourceWatch.Proofs.Listing.Bounds
import ResourceWatch.Proofs.Listing.Drain
import ResourceWatch.Proofs.Listing.Marked
import ResourceWatch.Proofs.Listing.Numbered
import ResourceWatch.Proofs.Wait.Account
import ResourceWatch.Proofs.Wait.Goal
import ResourceWatch.Proofs.Wait.Budget
import ResourceWatch.Proofs.Wait.Policy
import ResourceWatch.Proofs.Wait.Absence
import ResourceWatch.Proofs.Wait.Log
import ResourceWatch.Proofs.Listing.Demand
import ResourceWatch.Proofs.Listing.Succession
import ResourceWatch.Proofs.Listing.Sharing
import ResourceWatch.Proofs.Json.Schema
import ResourceWatch.Proofs.Listing.Envelope
import ResourceWatch.Proofs.Listing.Encoding
import ResourceWatch.Proofs.Rest.Listing
import ResourceWatch.Proofs.Url.Percent
import ResourceWatch.Proofs.Url.Below
import ResourceWatch.Proofs.Rest.Address
import ResourceWatch.Proofs.Text.Blank
import ResourceWatch.Proofs.Resource
import ResourceWatch.Proofs.Listing.Draft
import ResourceWatch.Proofs.Config.Validation
import ResourceWatch.Proofs.Script.Replay
import ResourceWatch.Proofs.Listing.Log
import ResourceWatch.Proofs.Listing.Accounts
import ResourceWatch.Proofs.Deadline
