import Axtp.Equiv.StreamDelivery
import Axtp.Equiv.CallConservation
import Axtp.Equiv.CallProgress
import Axtp.Lib.Along
import Axtp.Spec.Link
import Axtp.Equiv.Channel
import Axtp.Equiv.Serving
import Axtp.Equiv.Link
import Axtp.Equiv.JsonRoundTrip
import Axtp.Equiv.WireModes
import Axtp.Equiv.Truncation
import Axtp.Equiv.EndpointReversal
import Axtp.Sdk.AxtpServer
import Axtp.Sdk.AxtpClient
import Axtp.Lib.Throwing
import Axtp.Equiv.ClientWaits
import Axtp.Spec.ControlGrammar
import Axtp.Equiv.ControlGrammar
import Axtp.Equiv.SessionBookkeeping
import Axtp.Lib.Queue
import Axtp.Equiv.SelectiveTake
import Axtp.Equiv.ErrorAnswers
import Axtp.Equiv.SchemaProjection
import Axtp.Equiv.SchemaObjectCodec
import Axtp.Equiv.SchemaRoundTrip
import Axtp.Lib.Tlv8
import Axtp.Wire.SchemaObjectCodec
import Axtp.Spec.SchemaRestriction
import Axtp.Json.Members
import Axtp.Json.Lawful
import Axtp.Equiv.WebSocketJsonRpcAdapter
import Axtp.Equiv.JsonEnvelope
import Axtp.Runtime.RpcClientSession
import Axtp.Spec.Connection
import Axtp.Equiv.SessionAgreement
import Axtp.Equiv.SessionGating
import Axtp.Equiv.ReconnectIsolation
import Axtp.Runtime.WebSocketJsonRpcAdapter
import Axtp.Equiv.Negotiation
import Axtp.Equiv.ControlTlvCodec
import Axtp.Equiv.ControlSession
import Axtp.Equiv.BrokerConservation
import Axtp.Spec.Negotiation
import Axtp.Lib.Since
import Axtp.Equiv.ReplyRouting
import Axtp.Equiv.RequestIds
import Axtp.Equiv.AxtpEndpoint
import Axtp.Equiv.BasicBroker
import Axtp.Equiv.BusinessRouter
import Axtp.Equiv.PendingCallTable
import Axtp.Equiv.InboundProcessor
import Axtp.Spec.RequestGrammar
import Axtp.Equiv.RequestGrammar
import Axtp.Equiv.JsonRpcPayloadDecoder
import Axtp.Equiv.AxtpCore
import Axtp.Runtime.AxtpEndpoint
import Axtp.Runtime.AxtpCore
import Axtp.Runtime.BasicBroker
import Axtp.Runtime.BusinessRouter
import Axtp.Session.PendingCallTable
import Axtp.Session.ControlSession
import Axtp.Equiv.Transfer
import Axtp.Equiv.PayloadCodec
import Axtp.Wire.InboundProcessor
import Axtp.Wire.OutboundProcessor
import Axtp.Wire.PayloadDecoder
import Axtp.Wire.PayloadEncoder
import Axtp.Wire.ControlTlvCodec
import Axtp.Wire.JsonRpcPayloadDecoder
import Axtp.Wire.JsonRpcEncoder
import Axtp.Wire.EndpointMetadataCodec
import Axtp.Generated.Registries
import Axtp.Json.Value
import Axtp.Equiv.MessageReuse
import Axtp.Equiv.Crc16
import Axtp.Equiv.FrameEncoder
import Axtp.Equiv.MessageFragmenter
import Axtp.Lib.Pieces
import Axtp.Equiv.MessageReassembler
import Axtp.Lib.Slots
import Axtp.Wire.MessageReassembler
import Axtp.Wire.MessageFragmenter
import Axtp.Equiv.Resynchronisation
import Axtp.Equiv.FrameDecoder
import Axtp.Spec.FrameScan
import Axtp.Spec.SchemaLanguage
import Axtp.Equiv.NormalForm
import Axtp.Equiv.SchemaValidator
import Axtp.Equiv.SchemaLanguage
import Axtp.Equiv.RecordOrder
import Axtp.Devtools.Validator
import Axtp.Wire.FrameDecoder
import Axtp.Wire.FrameEncoder
import Axtp.Model.Types
import Axtp.Support.Crc16
import Axtp.Lib.Run
import Axtp.Lib.Ticket
import Axtp.Lib.Scanner
import Axtp.Lib.Crc
import Axtp.Lib.Bits
import Axtp.Lib.Double
import Axtp.Support.Bits
import Axtp.Endpoint.EndpointIdentity
import Axtp.Spec.Sha256
import Axtp.Equiv.EndpointIdentity
import Axtp.Lib.Numeral
import Axtp.Equiv.CanonicalDecimal
import Axtp.Equiv.SessionIds
import Axtp.Equiv.MessageIds
import Axtp.Equiv.DecoderResidue
import Axtp.Equiv.InboundMemory
import Axtp.Lib.Pairing
import Axtp.Equiv.MethodRegistry
import Axtp.Lib.Stoull
import Axtp.Spec.MethodIds
import Axtp.Generated.MethodRegistryJson
import Axtp.Equiv.MethodRegistryJson
import Axtp.Lib.Cycle
import Axtp.Equiv.RequestIdAllocation
import Axtp.Devtools.SpecModel
import Axtp.Devtools.Ids
import Axtp.Equiv.GeneratedIds
import Axtp.Devtools.ProtocolBuilder
import Axtp.Equiv.ProtocolBuilder
