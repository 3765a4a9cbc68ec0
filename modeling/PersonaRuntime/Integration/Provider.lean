import PersonaRuntime.Domain.Ids
import PersonaRuntime.Runtime.Authority

inductive ProviderErrorKind
  | unavailable
  | rateLimited
  | timeout
  | cancelled
  | invalidResponse
  | policyDenied
  | authenticationDenied
  | insufficientCredits
deriving DecidableEq, Repr

structure ProviderError where
  kind      : ProviderErrorKind
  retryable : Bool
deriving DecidableEq, Repr

-- The adapters have these errors in common.
namespace ProviderError

def cancelled : ProviderError :=
  ⟨.cancelled, false⟩

def invalidResponse : ProviderError :=
  ⟨.invalidResponse, false⟩

def timeout : ProviderError :=
  ⟨.timeout, true⟩

def unavailable : ProviderError :=
  ⟨.unavailable, true⟩

end ProviderError

inductive UsageUnit
  | token
  | textCharacter
  | audioMillisecond
deriving DecidableEq, Repr

structure UsageEvidence where
  inputUnits               : Option Nat
  inputUnit                : Option UsageUnit
  outputUnits              : Option Nat
  outputUnit               : Option UsageUnit
  estimatedCostMicrounits  : Option Nat
  providerChargeMicrounits : Option Nat
deriving DecidableEq, Repr

def UsageEvidence.default : UsageEvidence :=
  ⟨none, none, none, none, none, none⟩

inductive ProviderExecutionError
  | denied (reason : RuntimeDenyReason)
  | provider (error : ProviderError)
deriving DecidableEq

def providerReasonCode : ProviderErrorKind → Rt0ReasonCode
  | .unavailable          => .providerUnavailable
  | .rateLimited          => .providerRateLimited
  | .timeout              => .providerTimeout
  | .cancelled            => .turnCancelled
  | .policyDenied         => .egressDenied
  | .authenticationDenied => .providerAuthenticationDenied
  | .insufficientCredits  => .budgetExhausted
  | .invalidResponse      => .internalError
