import Fieldwise.Check.Order
import Fieldwise.Check.Presence
import Fieldwise.Config.Basic
import Fieldwise.Config.Codec
import Fieldwise.Decimal.Binary64
import Fieldwise.Decimal.Shortest
import Fieldwise.Duration
import Fieldwise.Format.CalendarDate
import Fieldwise.Format.Email
import Fieldwise.Format.IpAddress
import Fieldwise.Format.MacAddress
import Fieldwise.Predicate.Basic
import Fieldwise.Predicate.BuiltIn
import Fieldwise.Predicate.Catalogue
import Fieldwise.Reachability
import Fieldwise.Record.Basic
import Fieldwise.Record.Dynamic
import Fieldwise.Record.Schema
import Fieldwise.Report.Basic
import Fieldwise.Report.Codec
import Fieldwise.Report.Message
import Fieldwise.Rule.Basic
import Fieldwise.Rule.Book
import Fieldwise.Rule.Fault
import Fieldwise.Rule.Kind
import Fieldwise.Rule.Parameter
import Fieldwise.Table
import Fieldwise.Text.Blank
import Fieldwise.Text.Numeral
import Fieldwise.Text.Order
import Fieldwise.Text.Quoted
import Fieldwise.Url.Authority
import Fieldwise.Url.Basic
import Fieldwise.Url.Host
import Fieldwise.Url.Reference
import Fieldwise.Validator.Basic
import Fieldwise.Validator.Builder
import Fieldwise.Validator.Call
import Fieldwise.Value.Basic
import Fieldwise.Value.Members
import Fieldwise.Value.Numeral
import Fieldwise.Value.Object
import Fieldwise.Value.Printer
import Fieldwise.Value.Shape
import Fieldwise.Value.Typed
import Fieldwise.Proofs.Lists
import Fieldwise.Proofs.Engine.Outcome
import Fieldwise.Proofs.Engine.Walk
import Fieldwise.Proofs.BuiltIn.Demand
import Fieldwise.Proofs.BuiltIn.Verdict
import Fieldwise.Proofs.BuiltIn.Outcome
import Fieldwise.Proofs.Book
import Fieldwise.Proofs.Report.ByName
import Fieldwise.Proofs.Engine.Dynamic
import Fieldwise.Proofs.Engine.Independence
import Fieldwise.Proofs.Record.Modes
import Fieldwise.Proofs.Validator.History
import Fieldwise.Proofs.Text.Margin
import Fieldwise.Proofs.Text.Numeral
import Fieldwise.Proofs.Rule.Canonical
import Fieldwise.Proofs.Rule.Specification
import Fieldwise.Proofs.Validator.Interference
import Fieldwise.Proofs.Rule.Shelf
import Fieldwise.Proofs.Validator.Assembly
import Fieldwise.Proofs.Validator.Dispatch
import Fieldwise.Proofs.BuiltIn.Single
import Fieldwise.Proofs.BuiltIn.Affix
import Fieldwise.Proofs.BuiltIn.Range
import Fieldwise.Proofs.Rule.Padding
import Fieldwise.Proofs.Format.CalendarDate
import Fieldwise.Proofs.Text.Pattern
import Fieldwise.Proofs.Format.Email
import Fieldwise.Proofs.Format.IpAddress
import Fieldwise.Proofs.Format.MacAddress
import Fieldwise.Proofs.Url.Dotted
import Fieldwise.Proofs.Url.Bracketed
import Fieldwise.Proofs.Url.Reference
import Fieldwise.Proofs.Url.Authority
import Fieldwise.Proofs.BuiltIn.Confirmation
import Fieldwise.Proofs.Value.Equals
import Fieldwise.Proofs.BuiltIn.Length
import Fieldwise.Proofs.Record.Typed
import Fieldwise.Proofs.BuiltIn.Membership
import Fieldwise.Proofs.Text.Order
import Fieldwise.Proofs.Report.Views
import Fieldwise.Proofs.Report.Codec
import Fieldwise.Proofs.Value.Members
import Fieldwise.Proofs.Value.WellFormed
import Fieldwise.Proofs.Rule.Summary
import Fieldwise.Proofs.Config.Environment
import Fieldwise.Proofs.Validator.Origin
import Fieldwise.Proofs.Record.Preparation
import Fieldwise.Proofs.BuiltIn.Scalar
import Fieldwise.Proofs.Config.Codec
import Fieldwise.Proofs.Format.Calendar
import Fieldwise.Proofs.Format.DateForm
