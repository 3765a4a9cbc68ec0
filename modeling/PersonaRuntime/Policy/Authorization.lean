import Mathlib.Data.Finset.Basic
import PersonaRuntime.Domain.Ids
import PersonaRuntime.Machine.Mutation

@[ext]
structure AuthorityScope where
  asStr    : String
  nonblank : isBlank asStr = false

instance : DecidableEq AuthorityScope :=
  fun _ _ => decidable_of_iff _ AuthorityScope.ext_iff.symm

def AuthorityScope.new (value : String) : Option AuthorityScope :=
  if h : isBlank value = false then some ⟨value, h⟩ else none

structure AuthorityLayer where
  allowed : Finset AuthorityScope
  denied  : Finset AuthorityScope
deriving DecidableEq

structure EffectiveAuthority where
  allowed : Finset AuthorityScope
deriving DecidableEq

namespace EffectiveAuthority

def compose : List AuthorityLayer → EffectiveAuthority
  | []              => ⟨∅⟩
  | first :: layers =>
    let allowed := layers.foldl (fun allowed layer => allowed ∩ layer.allowed) first.allowed
    let denied := layers.foldl (fun denied layer => denied ∪ layer.denied) first.denied
    ⟨allowed.filter (· ∉ denied)⟩

def allows (authority : EffectiveAuthority) (scope : AuthorityScope) : Bool :=
  scope ∈ authority.allowed

end EffectiveAuthority

inductive DataClass
  | publicData
  | internal
  | personal
  | biometric
deriving DecidableEq, Repr

inductive ConsentState
  | granted
  | missing
  | revoked
deriving DecidableEq, Repr

structure EgressRequest where
  dataClass            : DataClass
  providerPolicyAllows : Bool
  consent              : ConsentState
  localOnlyRequired    : Bool
deriving DecidableEq, Repr

inductive EgressReason
  | allowed
  | localOnlyRequired
  | providerPolicyBlocked
  | consentRequired
  | consentRevoked
deriving DecidableEq, Repr

inductive EgressDecision
  | allow (reason : EgressReason)
  | localOnly (reason : EgressReason)
  | deny (reason : EgressReason)
deriving DecidableEq, Repr

def decideEgress (request : EgressRequest) : EgressDecision :=
  if request.localOnlyRequired then
    .localOnly .localOnlyRequired
  else if !request.providerPolicyAllows then
    .deny .providerPolicyBlocked
  else if request.dataClass = .biometric then
    match request.consent with
    | .granted => .allow .allowed
    | .missing => .deny .consentRequired
    | .revoked => .deny .consentRevoked
  else if request.consent = .revoked then
    .deny .consentRevoked
  else
    .allow .allowed

structure AuthorizationSnapshot where
  epoch : AuthorizationEpoch
deriving DecidableEq, Repr

inductive AuthorizationValidityError
  | staleEpoch
  | revoked
  | expired
deriving DecidableEq, Repr

structure AuthorizationState where
  epoch           : AuthorizationEpoch
  revoked         : Bool
  expiresAtMillis : Option Nat
deriving DecidableEq, Repr

namespace AuthorizationState

def new (expiresAtMillis : Option Nat) : AuthorizationState where
  epoch           := .initial
  revoked         := false
  expiresAtMillis := expiresAtMillis

def fromPersisted (epoch : Nat) (revoked : Bool) (expiresAtMillis : Option Nat) :
    Option AuthorizationState :=
  (AuthorizationEpoch.fromPersisted epoch).map fun epoch => { epoch, revoked, expiresAtMillis }

def snapshot (state : AuthorizationState) : AuthorizationSnapshot :=
  ⟨state.epoch⟩

abbrev Update := EStateM AuthorizationEpochExhausted AuthorizationState

def revoke : Update Unit := do
  if !(← get).revoked then
    let epoch ← .check id (← get).epoch.next
    modify ({ · with epoch })
    modify ({ · with revoked := true })

def replace (expiresAtMillis : Option Nat) : Update Unit := do
  let epoch ← .check id (← get).epoch.next
  modify ({ · with epoch })
  modify ({ · with revoked := false })
  modify ({ · with expiresAtMillis })

-- `now_millis >= expires_at_millis`, for an authority that expires at all.
def expired (expiresAtMillis : Option Nat) (nowMillis : Nat) : Bool :=
  expiresAtMillis.any (· ≤ nowMillis)

def validate (state : AuthorizationState) (snapshot : AuthorizationSnapshot) (nowMillis : Nat) :
    Except AuthorizationValidityError Unit :=
  if snapshot.epoch.get ≠ state.epoch.get then
    .error .staleEpoch
  else if state.revoked then
    .error .revoked
  else if expired state.expiresAtMillis nowMillis then
    .error .expired
  else
    .ok ()

variable {s : AuthorizationState} {now : Nat} {expiresAtMillis : Option Nat}

theorem revoke_run :
    revoke.run s =
      if s.revoked then .ok () s
      else match s.epoch.next with
        | .ok epoch => .ok () { s with epoch, revoked := true }
        | .error e  => .error e s := by
  cases hr : s.revoked <;> cases hn : s.epoch.next <;> simp [revoke, hr, hn]

theorem replace_run :
    (replace expiresAtMillis).run s =
      match s.epoch.next with
      | .ok epoch => .ok () { epoch, revoked := false, expiresAtMillis }
      | .error e  => .error e s := by
  cases hn : s.epoch.next <;> simp [replace, hn]

theorem validate_iff {snapshot : AuthorizationSnapshot} :
    s.validate snapshot now = .ok () ↔
      snapshot.epoch = s.epoch ∧ s.revoked = false ∧ expired s.expiresAtMillis now = false := by
  have ⟨⟨e⟩⟩ := snapshot
  have ⟨⟨e'⟩, revoked, _⟩ := s
  by_cases h : e = e' <;> cases revoked <;> simp [validate, h]

end AuthorizationState
