import PersonaRuntime.Collections.WeakRegistry
import PersonaRuntime.Domain.Reason
import PersonaRuntime.Policy.Authorization

inductive RuntimeDenyReason
  | authorizationRevoked
  | authorizationExpired
  | authorizationStale
  | authorityDenied
  | egressDenied
  | egressPolicyStale
  | consentRequired
  | localOnlyRequired
  | invalidTurnState
  | turnCancelled
  | internalError
deriving DecidableEq, Repr

namespace RuntimeDenyReason

def reasonCode : RuntimeDenyReason → Rt0ReasonCode
  | authorizationRevoked | authorizationStale => .authRevoked
  | authorizationExpired                      => .authExpired
  | authorityDenied                           => .authScopeDenied
  | egressDenied | egressPolicyStale          => .egressDenied
  | consentRequired                           => .consentRequired
  | localOnlyRequired                         => .egressLocalOnly
  | invalidTurnState                          => .invalidStateTransition
  | turnCancelled                             => .turnCancelled
  | internalError                             => .internalError

def ofValidity : AuthorizationValidityError → RuntimeDenyReason
  | .staleEpoch => authorizationStale
  | .revoked    => authorizationRevoked
  | .expired    => authorizationExpired

end RuntimeDenyReason

-- The address of the cancellation flag that a turn shares with its handles and permits. The
-- registries of the controllers hold these addresses weakly.
abbrev TurnAddress := Nat

structure AuthorizationRuntimeState where
  authorization      : AuthorizationState
  effectiveAuthority : EffectiveAuthority
  boundTurns         : WeakRegistry AuthorizationEpoch TurnAddress
deriving DecidableEq

def AuthorizationRuntimeState.new (expiresAtMillis : Option Nat)
    (effectiveAuthority : EffectiveAuthority) : AuthorizationRuntimeState where
  authorization      := .new expiresAtMillis
  effectiveAuthority := effectiveAuthority
  boundTurns         := []

structure EgressPolicySnapshot where
  revision : PolicyRevision
deriving DecidableEq, Repr

structure EgressPolicyRuntimeState where
  revision             : PolicyRevision
  providerPolicyAllows : Bool
  consent              : ConsentState
  localOnlyRequired    : Bool
  boundTurns           : WeakRegistry PolicyRevision TurnAddress
deriving DecidableEq

namespace EgressPolicyRuntimeState

def new (providerPolicyAllows : Bool) (consent : ConsentState) (localOnlyRequired : Bool) :
    EgressPolicyRuntimeState where
  revision             := .initial
  providerPolicyAllows := providerPolicyAllows
  consent              := consent
  localOnlyRequired    := localOnlyRequired
  boundTurns           := []

def validateSnapshot (state : EgressPolicyRuntimeState) (snapshot : EgressPolicySnapshot) :
    Except RuntimeDenyReason Unit :=
  if state.revision = snapshot.revision then .ok () else .error .egressPolicyStale

def request (state : EgressPolicyRuntimeState) (dataClass : DataClass) : EgressRequest where
  dataClass            := dataClass
  providerPolicyAllows := state.providerPolicyAllows
  consent              := state.consent
  localOnlyRequired    := state.localOnlyRequired

end EgressPolicyRuntimeState

-- The clock of the session is asked again at every check.
structure ProviderCancellation where
  turn            : TurnAddress
  expiresAtMillis : Option Nat
deriving DecidableEq, Repr

def ProviderCancellation.isCancelled (c : ProviderCancellation) (turnCancelled : Bool)
    (nowMillis : Option Nat) : Bool :=
  turnCancelled ||
    match c.expiresAtMillis, nowMillis with
    | none, _               => false
    | some _, none          => true
    | some expires, some now => expires ≤ now

def AuthorizationRuntimeState.validateBound (state : AuthorizationRuntimeState)
    (snapshot : AuthorizationSnapshot) (nowMillis : Nat) : Except RuntimeDenyReason Unit :=
  (state.authorization.validate snapshot nowMillis).mapError .ofValidity

-- The checks of the first half of a permit, on the two states as its caller has locked them.
def AuthorizationRuntimeState.issueProviderPermit (state : AuthorizationRuntimeState)
    (policy : EgressPolicyRuntimeState) (snapshot : AuthorizationSnapshot)
    (egressSnapshot : EgressPolicySnapshot) (turn : TurnAddress) (turnCancelled : Bool)
    (requiredScope : AuthorityScope) (dataClass : DataClass) (nowMillis : Nat) :
    Except RuntimeDenyReason ProviderCancellation := do
  state.validateBound snapshot nowMillis
  if policy.revision ≠ egressSnapshot.revision then
    throw .egressPolicyStale
  if turnCancelled then
    throw .turnCancelled
  if !state.effectiveAuthority.allows requiredScope then
    throw .authorityDenied
  match decideEgress (policy.request dataClass) with
  | .allow _               => return ⟨turn, state.authorization.expiresAtMillis⟩
  | .localOnly _           => throw .localOnlyRequired
  | .deny .consentRequired => throw .consentRequired
  | .deny _                => throw .egressDenied
