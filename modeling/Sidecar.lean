import Sidecar.Async
import Sidecar.Datastore.Common
import Sidecar.Datastore.ArraySort
import Sidecar.Datastore.Schema
import Sidecar.Datastore.PgStore
import Sidecar.Datastore.Connect
import Sidecar.Datastore.Faucet
import Sidecar.Canonical.Chain
import Sidecar.Canonical.Label
import Sidecar.Canonical.Restore
import Sidecar.Canonical.Depth
import Sidecar.Canonical.Append
import Sidecar.Update.Step
import Sidecar.Update.Invariant
import Sidecar.Update.Redelivery
import Sidecar.Update.Frame
import Sidecar.Update.Notify
import Sidecar.Datastore.Queries
import Sidecar.Query.Balances
import Sidecar.Query.Totals
import Sidecar.Query.Sorts
import Sidecar.Query.RoundTrip
import Sidecar.Query.Reads
import Sidecar.Query.Ingest
import Sidecar.EventStream.CoreMsg
import Sidecar.Api.Address
import Sidecar.Api.Guards
import Sidecar.Client.RosettaParseResponse
