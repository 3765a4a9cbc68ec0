import Mathlib.Logic.Basic

inductive Rt0ReasonCode
  | authRevoked
  | authExpired
  | authScopeDenied
  | egressDenied
  | egressLocalOnly
  | consentRequired
  | providerUnavailable
  | providerAuthenticationDenied
  | providerRateLimited
  | providerTimeout
  | preparationFailed
  | turnCancelled
  | invalidStateTransition
  | ownerAttributionUnverified
  | budgetExhausted
  | internalError
deriving DecidableEq, Repr
