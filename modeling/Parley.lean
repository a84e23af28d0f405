import Parley.Configuration
import Parley.Decimal.Notation
import Parley.Decimal.Shortest
import Parley.Graph.Basic
import Parley.Graph.Edit
import Parley.Graph.InPlace
import Parley.Graph.Lint
import Parley.Graph.Reach
import Parley.Graph.Record
import Parley.Integration.Basic
import Parley.Integration.Catalogue
import Parley.Json.Reader
import Parley.Json.Writer
import Parley.Live.Conversations
import Parley.Moment
import Parley.Preview.Held
import Parley.Preview.Session
import Parley.Preview.Transcript
import Parley.Proofs.Dictionary
import Parley.Proofs.Finite
import Parley.Proofs.Foremost
import Parley.Proofs.Graph.Build
import Parley.Proofs.Graph.Buttons
import Parley.Proofs.Graph.Changes
import Parley.Proofs.Graph.Course
import Parley.Proofs.Graph.InPlace
import Parley.Proofs.Graph.Linking
import Parley.Proofs.Graph.Merge
import Parley.Proofs.Graph.Origin
import Parley.Proofs.Graph.Reach
import Parley.Proofs.Graph.Rebuild
import Parley.Proofs.Graph.Replacing
import Parley.Proofs.Graph.RoundTrip
import Parley.Proofs.Graph.Slots
import Parley.Proofs.Graph.Undoing
import Parley.Proofs.Graph.Warnings
import Parley.Proofs.Graph.Whole
import Parley.Proofs.List
import Parley.Proofs.Live.Alone
import Parley.Proofs.Live.Clock
import Parley.Proofs.Live.Events
import Parley.Proofs.Live.Order
import Parley.Proofs.Moment.Calendar
import Parley.Proofs.Moment.Text
import Parley.Proofs.Preview.Answers
import Parley.Proofs.Preview.Clicks
import Parley.Proofs.Preview.Growth
import Parley.Proofs.Preview.Lines
import Parley.Proofs.Preview.Mirror
import Parley.Proofs.Preview.Notices
import Parley.Proofs.Reading.Basic
import Parley.Proofs.Reading.Taggable
import Parley.Proofs.Reading.Written
import Parley.Proofs.Record
import Parley.Proofs.Run.Accounts
import Parley.Proofs.Run.Address
import Parley.Proofs.Run.Asked
import Parley.Proofs.Run.Delays
import Parley.Proofs.Run.Effects
import Parley.Proofs.Run.Journal
import Parley.Proofs.Run.Name
import Parley.Proofs.Run.Present
import Parley.Proofs.Run.Rounds
import Parley.Proofs.Run.Routing
import Parley.Proofs.Run.Through
import Parley.Proofs.Run.Trace
import Parley.Proofs.Run.Unreachable
import Parley.Proofs.Service.Best
import Parley.Proofs.Service.Calls
import Parley.Proofs.Service.Limits
import Parley.Proofs.Service.Network
import Parley.Proofs.Service.Replies
import Parley.Proofs.Service.Sentences
import Parley.Proofs.Service.Window
import Parley.Proofs.Step.Again
import Parley.Proofs.Step.Legible
import Parley.Proofs.Step.RoundTrip
import Parley.Proofs.Step.Sound
import Parley.Proofs.Step.Untyped
import Parley.Proofs.Store.Calls
import Parley.Proofs.Store.Documents
import Parley.Proofs.Store.Graphs
import Parley.Proofs.Store.Labels
import Parley.Proofs.Store.Live
import Parley.Proofs.Store.NormalForm
import Parley.Proofs.Store.Saving
import Parley.Proofs.Store.Status
import Parley.Proofs.Studio.Deletion
import Parley.Proofs.Studio.History
import Parley.Proofs.Studio.Keeping
import Parley.Proofs.Studio.Previews
import Parley.Proofs.Studio.Returning
import Parley.Proofs.Studio.Writes
import Parley.Proofs.Substitution.Detour
import Parley.Proofs.Substitution.Pieces
import Parley.Proofs.Substitution.Places
import Parley.Proofs.Substitution.Report
import Parley.Proofs.Substitution.TokenByToken
import Parley.Proofs.Substitution.Undefined
import Parley.Proofs.Substitution.Values
import Parley.Proofs.Text.Blank
import Parley.Proofs.Text.Distinct
import Parley.Proofs.Text.Lower
import Parley.Proofs.Text.LowerTwice
import Parley.Proofs.Text.Runs
import Parley.Proofs.Trigger.Canonical
import Parley.Proofs.Trigger.Entries
import Parley.Proofs.Trigger.Keywords
import Parley.Proofs.Trigger.Literal
import Parley.Proofs.Trigger.Padding
import Parley.Proofs.Trigger.Startable
import Parley.Reading.Basic
import Parley.Reading.Issue
import Parley.Reading.Report
import Parley.Record.Basic
import Parley.Run.Basic
import Parley.Run.Perform
import Parley.Run.Stretches
import Parley.Run.Walk
import Parley.Service.Basic
import Parley.Service.Fault
import Parley.Service.Journal
import Parley.Service.Layer
import Parley.Service.Live
import Parley.Service.Network
import Parley.Service.Peer
import Parley.Service.Scripted
import Parley.Service.Simulated
import Parley.Step.Basic
import Parley.Step.Reader
import Parley.Step.Writer
import Parley.Store
import Parley.Studio.Answer
import Parley.Studio.Basic
import Parley.Studio.Handle
import Parley.Studio.Request
import Parley.Substitution.Context
import Parley.Substitution.Resolve
import Parley.Substitution.Token
import Parley.Text.Blank
import Parley.Text.Case
import Parley.Text.CaseTable
import Parley.Text.Display
import Parley.Text.Numeral
import Parley.Text.Percent
import Parley.Text.PrintableTable
import Parley.Text.Quoted
import Parley.Text.Search
import Parley.Trigger.Match
import Parley.Value
