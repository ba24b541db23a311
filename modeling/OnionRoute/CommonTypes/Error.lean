import Mathlib.Tactic

/-! The classified errors that components pass to each other. -/

namespace OnionRoute.CommonTypes

inductive ErrorDomain
  | configuration
  | platform
  | killSwitch
  | tor
  | directory
  | authentication
  | gateway
  | packet
  | dns
  | policy
  | storage
  | controlPlane
  | protocol
  | internal
  deriving DecidableEq

inductive ErrorCode
  | invalidConfiguration
  | platformUnsupported
  | killSwitchApplyFailed
  | killSwitchVerificationFailed
  | torBootstrapTimeout
  | torUnavailable
  | torStreamFailed
  | directoryUnavailable
  | directorySignatureInvalid
  | directoryExpired
  | directoryRollback
  | gatewayUnavailable
  | gatewayIdentityMismatch
  | protocolIncompatible
  | messageTooLarge
  | protocolViolation
  | tokenUnavailable
  | tokenRejected
  | sessionExpired
  | gatewayTimeout
  | backpressure
  | unsupportedTransport
  | policyDenied
  | dnsResolutionFailed
  | dnsLeakDetected
  | storageUnavailable
  | storageCorrupt
  | rotationDeferred
  | protectedPathLost
  | shutdownTimeout
  | invariantViolation
  deriving DecidableEq

inductive RetryClass
  | never
  | immediate
  | backoff
  | afterDirectoryRefresh
  | afterTokenRefresh
  | userAction
  deriving DecidableEq

inductive SafetyImpact
  | protected_
  | mustBlock
  | notApplicable
  deriving DecidableEq

inductive Severity
  | warning
  | error
  | fatal
  deriving DecidableEq

structure OnionError where
  domain : ErrorDomain
  code : ErrorCode
  severity : Severity
  retry : RetryClass
  safety : SafetyImpact
  message : String
  deriving DecidableEq

abbrev OnionResult (α : Type) := Except OnionError α

end OnionRoute.CommonTypes
