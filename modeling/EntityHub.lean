import EntityHub.Client.Dataset
import EntityHub.Client.Options
import EntityHub.Client.Query
import EntityHub.Client.Security
import EntityHub.Key.Directory
import EntityHub.Proofs.Token.Freshness
import EntityHub.Proofs.Token.Trace
import EntityHub.Stream.Script
import EntityHub.Text.Quoted
import EntityHub.Time.Calendar
import EntityHub.Proofs.Token.SingleFlight
import EntityHub.Proofs.Token.Invalidation
import EntityHub.Proofs.Stream.Walk
import EntityHub.Proofs.Client.Post
import EntityHub.Proofs.Json.RoundTrip
import EntityHub.Proofs.Query.Cursor
import EntityHub.Proofs.Query.Traversal
import EntityHub.Proofs.Stream.Chain
import EntityHub.Proofs.Stream.Collect
import EntityHub.Proofs.Query.Drain
import EntityHub.Proofs.Token.Reauthentication
import EntityHub.Proofs.Url.Host
import EntityHub.Proofs.Url.Authority
import EntityHub.Proofs.Client.Plan
import EntityHub.Proofs.Client.Operation
import EntityHub.Proofs.Token.Accounting
import EntityHub.Proofs.Token.Order
import EntityHub.Proofs.Token.Usability
import EntityHub.Proofs.Client.Verdict
import EntityHub.Proofs.Client.Unfit
import EntityHub.Proofs.Auth.Exchange
import EntityHub.Proofs.Client.Local
import EntityHub.Proofs.Json.Levels
import EntityHub.Proofs.Stream.Resume
import EntityHub.Proofs.Client.Endpoint
import EntityHub.Proofs.Wire
import EntityHub.Proofs.Client.Replay
import EntityHub.Proofs.Entity.Again
import EntityHub.Proofs.Key.Saving
import EntityHub.Proofs.Token.Lifetime
import EntityHub.Proofs.Auth.Secret
import EntityHub.Proofs.Access.Registration
import EntityHub.Proofs.Token.Expiry
import EntityHub.Proofs.Token.Agreement
import EntityHub.Proofs.Stream.Ending
import EntityHub.Proofs.Auth.Compact
import EntityHub.Proofs.Query.Exact
