import ChatGateway.Main
import ChatGateway.Proofs.Chat.Accepted
import ChatGateway.Proofs.Chat.Respelled
import ChatGateway.Proofs.Completion.Payload
import ChatGateway.Proofs.Relay.Ambiguous
import ChatGateway.Proofs.Relay.FirstReply
import ChatGateway.Proofs.Relay.Integers
import ChatGateway.Proofs.Relay.Once
import ChatGateway.Proofs.Relay.Stable
import ChatGateway.Proofs.Relay.Success
import ChatGateway.Proofs.Relay.Truncated
import ChatGateway.Proofs.Report.Leaves
import ChatGateway.Proofs.Service.Ending
import ChatGateway.Proofs.Exchange.Credentials
import ChatGateway.Proofs.Exchange.Shape
import ChatGateway.Proofs.Relay.Calls
import ChatGateway.Proofs.Relay.Log
import ChatGateway.Proofs.Report.Recovered
import ChatGateway.Proofs.Settings.Lookup
import ChatGateway.Proofs.Startup.Lines
import ChatGateway.Proofs.Startup.Values
import ChatGateway.Proofs.Startup.Ending
import ChatGateway.Proofs.Json.Located
import ChatGateway.Proofs.Json.Located.Number
import ChatGateway.Proofs.Json.Located.Record
import ChatGateway.Proofs.Service.Positions
