import PersonaRuntime.OwnerLab.Requests
import PersonaRuntime.Policy.Theorems.Publication

theorem Except.orMessage_eq_ok {ε α : Type} {message : String} {x : Except ε α} {a : α}
    (h : x.orMessage message = .ok a) : x = .ok a := by
  cases x
  case error => cases h
  case ok    => simpa [Except.orMessage, Except.mapError] using h

theorem Option.okOr_eq_ok {α : Type} {message : String} {x : Option α} {a : α}
    (h : x.okOr message = .ok a) : x = some a := by
  cases x
  case none => cases h
  case some => simpa [Option.okOr] using h

theorem RawPersona.requiredPersona_eq_ok {raw : Option RawPersona} {record : PersistedPersonaV2}
    (h : RawPersona.requiredPersona raw = .ok record) : raw = some (.persisted record) := by
  obtain ⟨found, hl, h⟩ := Except.bind_eq_ok h
  cases raw
  case none => cases hl; cases h
  case some raw =>
    cases raw
    case other => cases hl
    case persisted =>
      obtain ⟨_, _, hl⟩ := Except.bind_eq_ok hl
      cases hl
      cases h
      rfl

namespace CanonicalPublicationSnapshot

-- A permit of the current epoch of a published Persona.
structure Admits (state : CanonicalPublicationSnapshot) (permit : VisitorPermit) : Prop where
  published : state.status = .published
  epoch     : permit.snapshot.epoch.get = state.authorizationEpoch

-- A permit of an earlier epoch.
def Outdates (state : CanonicalPublicationSnapshot) (permit : VisitorPermit) : Prop :=
  permit.snapshot.epoch.get < state.authorizationEpoch

end CanonicalPublicationSnapshot

namespace CanonicalPublication

variable {p p' : CanonicalPublication} {state : CanonicalPublicationSnapshot} {permit : VisitorPermit}

theorem fromDurableSnapshot_eq_ok (h : fromDurableSnapshot state = .ok p) :
    p.WellFormed ∧ p.durableSnapshot = state := by
  simp only [fromDurableSnapshot] at h
  split at h
  case isTrue => cases h
  case isFalse hg =>
    simp only [not_or, Bool.not_eq_true] at hg
    obtain ⟨ho, hp, hi, hv, hr, hw⟩ := hg
    cases ha : AuthorizationState.fromPersisted state.authorizationEpoch state.authorizationRevoked none
    case none => simp [ha] at h
    case some authority =>
      simp only [ha, Except.ok.injEq] at h
      simp only [AuthorizationState.fromPersisted, AuthorizationEpoch.fromPersisted,
        Option.map_eq_some_iff] at ha
      obtain ⟨epoch, he, rfl⟩ := ha
      split at he <;> cases he
      case isFalse hz =>
        subst h
        refine ⟨⟨ho, hp, hi, hv, fun hs => ?_, fun hs => ?_, hz, rfl⟩, rfl⟩
        · simpa using fun h => hr ⟨hs, h⟩
        · simpa using fun h => hw ⟨hs, h⟩

theorem Settles.change {x : Update Unit} (hs : Settles x p) (h : x.on p = .ok p') : p.Change p' := by
  obtain ⟨e, hr⟩ | ⟨p'', hr, hc⟩ := hs
  all_goals simp only [Update.on, hr] at h
  case inl => cases h
  case inr =>
    cases h
    exact hc

-- Whatever an owner changes, the permits so far are of the past.
theorem Change.outdates (c : p.Change p') (w : p.WellFormed)
    (h : p.durableSnapshot.Admits permit ∨ p.durableSnapshot.Outdates permit) :
    p'.durableSnapshot.Outdates permit := by
  obtain h | h := h
  case inl =>
    obtain hlt | ⟨hr, _⟩ := c.epoch_cases
    · exact lt_of_eq_of_lt h.epoch hlt
    · simp [w.published h.published] at hr
  case inr => exact lt_of_lt_of_le h c.epochOrder.le

end CanonicalPublication

namespace OwnerWorkspaceRecord

variable {sha256 : Digest} {w w' : OwnerWorkspaceRecord} {state : CanonicalPublicationSnapshot}
  {permit : VisitorPermit} {token ownerToken personaId : String} {personaVersion now : Nat}
  {ready : Bool} {random : RandomSource}

theorem restore_eq_ok {p : CanonicalPublication} (h : restore state = .ok p) :
    p.WellFormed ∧ p.durableSnapshot = state :=
  CanonicalPublication.fromDurableSnapshot_eq_ok (Except.orMessage_eq_ok h)

theorem publish_outdates
    (h : w.publish sha256 ownerToken personaId personaVersion ready random = .ok (w', token))
    (hp : w.publication = some state) (ha : state.Admits permit ∨ state.Outdates permit) :
    ∃ state', w'.publication = some state' ∧ state'.Outdates permit := by
  simp only [publish, hp] at h
  obtain ⟨p, hr, h⟩ := Except.bind_eq_ok (Except.guard_eq_ok h)
  obtain ⟨p', hc, h⟩ := Except.bind_eq_ok (Except.guard_eq_ok h)
  obtain ⟨_, _, h⟩ := Except.bind_eq_ok h
  cases h
  obtain ⟨hw, rfl⟩ := restore_eq_ok hr
  have c := CanonicalPublication.publish_settles.change (Except.orMessage_eq_ok hc)
  exact ⟨_, rfl, c.outdates hw ha⟩

theorem changePublication_outdates {operation : String → CanonicalPublication.Update Unit}
    (hs : ∀ {owner p}, CanonicalPublication.Settles (operation owner) p)
    (h : w.changePublication sha256 ownerToken operation = .ok w') (hp : w.publication = some state)
    (ha : state.Admits permit ∨ state.Outdates permit) :
    ∃ state', w'.publication = some state' ∧ state'.Outdates permit := by
  simp only [changePublication, hp] at h
  obtain ⟨_, ho, h⟩ := Except.bind_eq_ok (Except.guard_eq_ok h)
  obtain ⟨p, hr, h⟩ := Except.bind_eq_ok h
  obtain ⟨p', hc, h⟩ := Except.bind_eq_ok h
  cases h
  cases ho
  obtain ⟨hw, rfl⟩ := restore_eq_ok hr
  exact ⟨_, rfl, (hs.change (Except.orMessage_eq_ok hc)).outdates hw ha⟩

theorem visitorPermit_admits (h : w.visitorPermit sha256 token = .ok permit) :
    ∃ state, w.publication = some state ∧ state.Admits permit := by
  obtain ⟨_, _, h⟩ := Except.bind_eq_ok h
  obtain ⟨state, hs, h⟩ := Except.bind_eq_ok (Except.guard_eq_ok h)
  obtain ⟨p, hr, h⟩ := Except.bind_eq_ok h
  have hp := CanonicalPublication.visitorLease_honours (Except.orMessage_eq_ok h)
  obtain ⟨_, rfl⟩ := restore_eq_ok hr
  exact ⟨_, Option.okOr_eq_ok hs, hp.published, congrArg AuthorizationEpoch.get hp.epoch⟩

theorem authorizeVisitor_admits
    (h : w.authorizeVisitor sha256 token permit personaId personaVersion now = .ok ()) :
    ∃ state, w.publication = some state ∧ state.Admits permit := by
  obtain ⟨_, _, h⟩ := Except.bind_eq_ok h
  obtain ⟨state, hs, h⟩ := Except.bind_eq_ok (Except.guard_eq_ok h)
  obtain ⟨p, hr, h⟩ := Except.bind_eq_ok h
  have ⟨hw, hs'⟩ := restore_eq_ok hr
  have hp := (hw.authorizeVisitor_iff.mp (Except.orMessage_eq_ok h)).2.2.2.2
  subst hs'
  exact ⟨_, Option.okOr_eq_ok hs, hp.published, congrArg AuthorizationEpoch.get hp.epoch⟩

end OwnerWorkspaceRecord

namespace RawPersona

-- The publication in the file, if there is one.
def publication : Option RawPersona → Option CanonicalPublicationSnapshot
  | some (.persisted record) => record.workspace.bind (·.publication)
  | _                        => none

def Admits (file : Option RawPersona) (permit : VisitorPermit) : Prop :=
  ∃ state, publication file = some state ∧ state.Admits permit

def Outdates (file : Option RawPersona) (permit : VisitorPermit) : Prop :=
  ∃ state, publication file = some state ∧ state.Outdates permit

end RawPersona

-- Every commit of a workspace method outdates the permits that were minted before it.
theorem WorkspaceCall.prepare_outdates {sha256 : Digest} {c : WorkspaceCall} {file : Option RawPersona}
    {record : PersistedPersonaV2} {reply : WorkspaceReply} {permit : VisitorPermit}
    (h : c.prepare sha256 file = .ok (record, reply))
    (hp : RawPersona.Admits file permit ∨ RawPersona.Outdates file permit) :
    RawPersona.Outdates (some (.persisted record)) permit := by
  obtain ⟨old, hr, h⟩ := Except.bind_eq_ok h
  obtain ⟨⟨record, _⟩, ha, h⟩ := Except.bind_eq_ok h
  obtain ⟨_, _, h⟩ := Except.bind_eq_ok h
  cases h
  obtain rfl := RawPersona.requiredPersona_eq_ok hr
  obtain ⟨state, hs, hp⟩ : ∃ state, RawPersona.publication (some (.persisted old)) = some state ∧
      (state.Admits permit ∨ state.Outdates permit) :=
    hp.elim (fun ⟨state, hs, h⟩ => ⟨state, hs, .inl h⟩) fun ⟨state, hs, h⟩ => ⟨state, hs, .inr h⟩
  obtain ⟨w, hw, hs⟩ := Option.bind_eq_some_iff.mp hs
  cases c <;> simp only [WorkspaceCall.apply, WorkspaceCall.changePublication, hw] at ha
  case provisionOwner => simp at ha
  case publish =>
    split at ha
    case isTrue => cases ha
    case isFalse =>
      obtain ⟨_, hk, ha⟩ := Except.bind_eq_ok ha
      have ⟨⟨w', _⟩, hc, he⟩ := Except.bind_eq_ok ha
      obtain rfl := Option.some.inj (Option.okOr_eq_ok hk)
      cases he
      exact OwnerWorkspaceRecord.publish_outdates hc hs hp
  all_goals
    obtain ⟨_, hk, ha⟩ := Except.bind_eq_ok ha
    have ⟨w', hc, he⟩ := Except.bind_eq_ok ha
    obtain rfl := Option.some.inj (Option.okOr_eq_ok hk)
    cases he
  case refl.pause.refl =>
    exact OwnerWorkspaceRecord.changePublication_outdates CanonicalPublication.pause_settles hc hs hp
  case refl.unpublish.refl =>
    exact OwnerWorkspaceRecord.changePublication_outdates CanonicalPublication.unpublish_settles hc hs hp

-- A source of zero bytes only.
def zeros : RandomSource := fun n =>
  some (List.Vector.replicate n 0)

-- A token of zeros is the hexadecimal form of 32 bytes, and this is its digest.
def zeroDigest : Digest := fun _ =>
  ⟨[96, 224, 91, 209, 177, 149, 175, 47, 148, 17, 47, 167, 25, 122, 92, 136, 40, 144, 88, 132, 12, 231,
    198, 223, 150, 147, 117, 107, 198, 37, 15, 85], rfl⟩
