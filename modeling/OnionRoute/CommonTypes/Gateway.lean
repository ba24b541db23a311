import OnionRoute.PacketEngine.Flow

/-! Gateways as the directory describes them, and the routes through them. -/

namespace OnionRoute.CommonTypes

open PacketEngine (AnonymityMode GatewayId)

structure CountryCode where
  value : Vector UInt8 2
  deriving DecidableEq

structure OnionEndpoint where
  serviceId : String
  port : UInt16
  deriving DecidableEq

inductive GatewayRole
  | entry
  | relay
  | exit
  deriving DecidableEq

structure GatewayHop where
  gatewayId : GatewayId
  role : GatewayRole
  onionEndpoint : OnionEndpoint
  tlsSpkiSha256 : Vector UInt8 32
  deriving DecidableEq

structure GatewayPlan where
  mode : AnonymityMode
  hops : List GatewayHop
  deriving DecidableEq

structure RouteConstraints where
  mode : AnonymityMode
  exitCountry : Option CountryCode
  requiredFeatures : List String

structure GatewayDescriptor where
  gatewayId : GatewayId
  country : CountryCode
  roles : List GatewayRole
  endpoint : OnionEndpoint
  tlsSpkiSha256 : Vector UInt8 32
  capabilities : List String
  deriving DecidableEq

structure VerifiedGatewayDirectory where
  gateways : List GatewayDescriptor

end OnionRoute.CommonTypes
