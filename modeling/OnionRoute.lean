import OnionRoute.PacketEngine.Retransmission
import OnionRoute.PacketEngine.DeferredAck
import OnionRoute.PacketEngine.StreamRelease
import OnionRoute.PacketEngine.SyntheticPackets
import OnionRoute.PacketEngine.Suspend
import OnionRoute.GatewayProtocol.CloseCrossing
import OnionRoute.GatewayProtocol.DrainCrossing
import OnionRoute.GatewayProtocol.StreamAnswers
import OnionRoute.GatewayProtocol.HandshakeAgreement
import OnionRoute.GatewayProtocol.PhaseSafety
import OnionRoute.GatewayProtocol.DecoderAgreement
import OnionRoute.ClientCore.StaleAddresses
import OnionRoute.DirectoryClient.DiverseSelection
import OnionRoute.DirectoryClient.Rollback
import OnionRoute.DnsEngine.AddressPool
import OnionRoute.DnsEngine.SelfConsistency
import OnionRoute.GatewayDaemon.DnsNames
import OnionRoute.GatewayDaemon.EgressPolicy
import OnionRoute.GatewayDaemon.FailureIsolation
import OnionRoute.GatewayDaemon.LengthPrefix
import OnionRoute.GatewayDaemon.NameBounds
import OnionRoute.GatewayDaemon.OutputGrammar
import OnionRoute.GatewayDaemon.Teardown
import OnionRoute.PolicyEngine.Plan
import OnionRoute.GatewayMultihop.HelloReplay
import OnionRoute.AuthTokens.ProofReplay
import OnionRoute.AuthTokens.IssuerAgreement
import OnionRoute.TorBackend.ReplyMatching
import OnionRoute.GatewayMultihop.RelayQuota
import OnionRoute.GatewayMultihop.EntryQuota
import OnionRoute.GatewayMultihop.RouteSelection
import OnionRoute.GatewayMultihop.Connection
import OnionRoute.GatewayMultihop.Mux
import OnionRoute.GatewayProtocol.Refusals
import OnionRoute.TorBackend.ReplyParsing
