import FlowSdk.Client.Exchanges
import FlowSdk.Client.Memory
import FlowSdk.Client.Outstanding
import FlowSdk.Client.Ownership
import FlowSdk.Client.PriorityList
import FlowSdk.Contract.Backoff
import FlowSdk.Contract.Authentication
import FlowSdk.Contract.Clock
import FlowSdk.Contract.Delivery
import FlowSdk.Contract.Draining
import FlowSdk.Contract.Identifiers
import FlowSdk.Contract.Refused
import FlowSdk.Contract.Reuse
import FlowSdk.Contract.Timer
import FlowSdk.Contract.Window
import FlowSdk.Grpc.Tunnel
import FlowSdk.Refine.Run
import FlowSdk.Serde.Canonical
import FlowSdk.Serde.Connect
import FlowSdk.Serde.Encoded
import FlowSdk.Serde.Levels
import FlowSdk.Serde.Publish
import FlowSdk.Serde.RoundTrip
import FlowSdk.Serde.Stream
import FlowSdk.Server.History
import FlowSdk.Server.Topics
import FlowSdk.Tokio.Waiters
