import SignOnGate.Correlation
import SignOnGate.Correlation.Ambient
import SignOnGate.Delivery
import SignOnGate.Digest.Sha256
import SignOnGate.Exclusion
import SignOnGate.Gate.Basic
import SignOnGate.Gate.Decision
import SignOnGate.Gate.Evaluate
import SignOnGate.Gate.Event
import SignOnGate.Gate.Process
import SignOnGate.Gateway.Attempts
import SignOnGate.Gateway.Key
import SignOnGate.Gateway.Memory
import SignOnGate.Gateway.Resolver
import SignOnGate.Http.FrontDoor
import SignOnGate.Http.Host
import SignOnGate.Http.Reply
import SignOnGate.Http.Scope
import SignOnGate.Login
import SignOnGate.OrderedMap
import SignOnGate.Pattern
import SignOnGate.Pattern.CharTest
import SignOnGate.Pattern.Fault
import SignOnGate.Pattern.Marks
import SignOnGate.Pattern.Match
import SignOnGate.Pattern.Node
import SignOnGate.Pattern.Notation
import SignOnGate.Pattern.Reader
import SignOnGate.Plugin
import SignOnGate.Plugin.Catalogue
import SignOnGate.Plugin.Escape
import SignOnGate.Plugin.Standard
import SignOnGate.Protocol
import SignOnGate.Query
import SignOnGate.Redirect
import SignOnGate.Request
import SignOnGate.Response
import SignOnGate.ServiceUrl
import SignOnGate.Session
import SignOnGate.Settings
import SignOnGate.Settings.Field
import SignOnGate.Setup
import SignOnGate.Setup.Fault
import SignOnGate.Setup.Rule
import SignOnGate.Text.Attribute
import SignOnGate.Text.Basic
import SignOnGate.Text.Blank
import SignOnGate.Text.Capital
import SignOnGate.Text.CapitalTable
import SignOnGate.Text.CaseContextTable
import SignOnGate.Text.CaseTable
import SignOnGate.Text.Integer
import SignOnGate.Text.JsonString
import SignOnGate.Text.Latin
import SignOnGate.Text.Lower
import SignOnGate.Text.Percent
import SignOnGate.Text.PrintableTable
import SignOnGate.Text.Quoted
import SignOnGate.Text.Ranges
import SignOnGate.Text.Utf8
import SignOnGate.Text.WordTable
import SignOnGate.Url.Absolute
import SignOnGate.Url.Address
import SignOnGate.Url.Basic
import SignOnGate.Value
import SignOnGate.Proofs.Correlation.Nesting
import SignOnGate.Proofs.Delivery
import SignOnGate.Proofs.Gate.Closed
import SignOnGate.Proofs.Gate.Configured
import SignOnGate.Proofs.Gate.Course
import SignOnGate.Proofs.Gate.Credentials
import SignOnGate.Proofs.Gate.Failure
import SignOnGate.Proofs.Gate.Faults
import SignOnGate.Proofs.Gate.Frame
import SignOnGate.Proofs.Gate.Headers
import SignOnGate.Proofs.Gate.History
import SignOnGate.Proofs.Gate.Journey
import SignOnGate.Proofs.Gate.Processing
import SignOnGate.Proofs.Gate.Reports
import SignOnGate.Proofs.Gate.Response
import SignOnGate.Proofs.Gate.Service
import SignOnGate.Proofs.Gate.Shape
import SignOnGate.Proofs.Gateway.Awaits
import SignOnGate.Proofs.Gateway.Damaged
import SignOnGate.Proofs.Gateway.Frame
import SignOnGate.Proofs.Gateway.Key
import SignOnGate.Proofs.Gateway.Refinement
import SignOnGate.Proofs.Gateway.Return
import SignOnGate.Proofs.Gateway.SharedStore
import SignOnGate.Proofs.Gateway.Stored
import SignOnGate.Proofs.Http.FrontDoor
import SignOnGate.Proofs.Http.Page
import SignOnGate.Proofs.Http.Scope
import SignOnGate.Proofs.Http.Trail
import SignOnGate.Proofs.Login
import SignOnGate.Proofs.Login.Splice
import SignOnGate.Proofs.OrderedMap
import SignOnGate.Proofs.Plugin.Catalogue
import SignOnGate.Proofs.Query
import SignOnGate.Proofs.Redirect
import SignOnGate.Proofs.Request
import SignOnGate.Proofs.ServiceUrl
import SignOnGate.Proofs.ServiceUrl.Callback
import SignOnGate.Proofs.ServiceUrl.FieldValue
import SignOnGate.Proofs.ServiceUrl.Origin
import SignOnGate.Proofs.ServiceUrl.Ticket
import SignOnGate.Proofs.Settings.Spelling
import SignOnGate.Proofs.Setup.Accepted
import SignOnGate.Proofs.Setup.Exclusion
import SignOnGate.Proofs.Text.Ascii
import SignOnGate.Proofs.Text.Attribute
import SignOnGate.Proofs.Text.Cut
import SignOnGate.Proofs.Text.Escape
import SignOnGate.Proofs.Text.Json
import SignOnGate.Proofs.Text.Lower
import SignOnGate.Proofs.Text.Percent
import SignOnGate.Proofs.Text.Utf16
import SignOnGate.Proofs.Text.Utf8
import SignOnGate.Proofs.Url.Absolute
import SignOnGate.Proofs.Url.Address
import SignOnGate.Proofs.Url.Authority
import SignOnGate.Proofs.Url.Host
import SignOnGate.Proofs.Url.Label
import SignOnGate.Proofs.Url.Marks
import SignOnGate.Proofs.Url.Quiet
import SignOnGate.Proofs.Url.Secured
import SignOnGate.Proofs.Url.Spelling
import SignOnGate.Proofs.Url.Split
