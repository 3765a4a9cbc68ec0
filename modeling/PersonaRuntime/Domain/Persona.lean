import PersonaRuntime.Domain.Ids

inductive PersonaMode
  | digitalTwin
  | fictionalCharacter
  | expert
  | organizationRepresentative
deriving DecidableEq, Repr

inductive PersonaVersionExhausted
  | mk
deriving DecidableEq, Repr

@[ext]
structure PersonaVersion where
  get : Nat
  pos : 0 < get
deriving DecidableEq

namespace PersonaVersion

def new (value : Nat) : Option PersonaVersion :=
  if h : 0 < value then some ⟨value, h⟩ else none

def next (v : PersonaVersion) : Except PersonaVersionExhausted PersonaVersion :=
  if v.get + 1 ≤ u64Max then .ok ⟨v.get + 1, Nat.succ_pos _⟩ else .error .mk

theorem get_next {v v' : PersonaVersion} (h : v.next = .ok v') : v'.get = v.get + 1 := by
  simp only [next] at h
  split at h
  case isTrue  => cases h; rfl
  case isFalse => cases h

end PersonaVersion

structure PersonaIdentity where
  id      : PersonaId
  version : PersonaVersion
  mode    : PersonaMode
deriving DecidableEq

def PersonaIdentity.isRt0Supported (p : PersonaIdentity) : Bool :=
  p.mode = .digitalTwin

structure TurnExecutionSnapshot where
  turnId               : TurnId
  correlationId        : CorrelationId
  personaId            : PersonaId
  personaVersion       : PersonaVersion
  personaMode          : PersonaMode
  authorizationEpoch   : AuthorizationEpoch
  egressPolicyRevision : PolicyRevision
deriving DecidableEq
