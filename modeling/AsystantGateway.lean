import AsystantGateway.Admin.Authority
import AsystantGateway.Admin.Document
import AsystantGateway.Admin.Edits
import AsystantGateway.Admin.Frame
import AsystantGateway.Admin.Handlers
import AsystantGateway.Admin.LiveOrigins
import AsystantGateway.Admin.Lockout
import AsystantGateway.Admin.Playground
import AsystantGateway.Admin.Policy
import AsystantGateway.Admin.Redeploy
import AsystantGateway.Admin.Repository
import AsystantGateway.Admin.RoundTrip
import AsystantGateway.Admin.Sessions
import AsystantGateway.Admin.TestReply
import AsystantGateway.Admin.View
import AsystantGateway.Deployment.Administration
import AsystantGateway.Deployment.Authorisation
import AsystantGateway.Deployment.Client
import AsystantGateway.Deployment.Handlers
import AsystantGateway.Deployment.Machine
import AsystantGateway.Deployment.Manifests
import AsystantGateway.Deployment.Outgoing
import AsystantGateway.Deployment.Provenance
import AsystantGateway.Deployment.Sections
import AsystantGateway.Deployment.Spending
import AsystantGateway.Deployment.Steps
import AsystantGateway.Http.Admission
import AsystantGateway.Http.RateLimit
import AsystantGateway.Http.Routes
import AsystantGateway.Library.Channel
import AsystantGateway.Library.CheckedInt
import AsystantGateway.Library.Checks
import AsystantGateway.Library.Fallible
import AsystantGateway.Library.Gather
import AsystantGateway.Library.Hex
import AsystantGateway.Library.History
import AsystantGateway.Library.Holds
import AsystantGateway.Library.Html
import AsystantGateway.Library.Json.Canonical
import AsystantGateway.Library.Json.Edit
import AsystantGateway.Library.Json.Fields
import AsystantGateway.Library.Json.Injective
import AsystantGateway.Library.Json.Null
import AsystantGateway.Library.Json.Read
import AsystantGateway.Library.Json.Size
import AsystantGateway.Library.Json.Value
import AsystantGateway.Library.Json.Visible
import AsystantGateway.Library.KeyedList
import AsystantGateway.Library.Lines
import AsystantGateway.Library.Lookup
import AsystantGateway.Library.Machine
import AsystantGateway.Library.Percent
import AsystantGateway.Library.Provenance
import AsystantGateway.Library.Record
import AsystantGateway.Library.Replace
import AsystantGateway.Library.Simulation
import AsystantGateway.Library.SlidingWindow
import AsystantGateway.Library.Stateful
import AsystantGateway.Library.Table
import AsystantGateway.Library.Text
import AsystantGateway.Library.WindowCounter
import AsystantGateway.Model.Bodies
import AsystantGateway.Model.Config
import AsystantGateway.Model.Entitlement
import AsystantGateway.Model.Environment
import AsystantGateway.Model.Error
import AsystantGateway.Model.Identity
import AsystantGateway.Model.Origins
import AsystantGateway.Model.Ticket
import AsystantGateway.Model.Turn
import AsystantGateway.Provider.Acceptance
import AsystantGateway.Provider.ChatEvents
import AsystantGateway.Provider.ChatRequest
import AsystantGateway.Provider.ChatStream
import AsystantGateway.Provider.Chunking
import AsystantGateway.Provider.InputBound
import AsystantGateway.Provider.NullMembers
import AsystantGateway.Provider.Outgoing
import AsystantGateway.Provider.Pricing
import AsystantGateway.Provider.Readback
import AsystantGateway.Provider.Replies
import AsystantGateway.Provider.Requests
import AsystantGateway.Provider.Streaming
import AsystantGateway.Provider.Usage
import AsystantGateway.Repository.Accounting
import AsystantGateway.Repository.Bookkeeping
import AsystantGateway.Repository.Budget
import AsystantGateway.Repository.Database
import AsystantGateway.Repository.Isolation
import AsystantGateway.Repository.Ledger
import AsystantGateway.Repository.Sessions
import AsystantGateway.Repository.Tenancy
import AsystantGateway.Service.Claims
import AsystantGateway.Service.CredentialRuns
import AsystantGateway.Service.Credentials
import AsystantGateway.Service.Disconnects
import AsystantGateway.Service.EventStream
import AsystantGateway.Service.Frames
import AsystantGateway.Service.Registration
import AsystantGateway.Service.SendBack
import AsystantGateway.Service.StartTurn
import AsystantGateway.Service.StorageKeys
import AsystantGateway.Service.Transcript
import AsystantGateway.Service.TurnCycle
import AsystantGateway.Service.TurnMachine
import AsystantGateway.Service.TurnOutcome
import AsystantGateway.Service.TurnSteps
