import PersonaRuntime.OwnerLab.Theorems.Workspace
import PersonaRuntime.OwnerLab.VisitorSessions

namespace VisitorInstruction

-- The visitors whose `fast_revoke` has to run before the instruction does.
def needs : VisitorInstruction → List VisitorAddress
  | swapStopped v | stop v => [v]
  | release sessions       => sessions
  | _                      => []

-- The visitors whose `fast_revoke` has run when the instruction is done with.
def revokes : VisitorInstruction → List VisitorAddress
  | swapRevoked v | fastRevoke v => [v]
  | _                            => []

def holdsTransaction : VisitorInstruction → Bool
  | takeForRevocation | release _ => true
  | _                             => false

-- Neither a callback nor a part of a transaction.
def calm : VisitorInstruction → Bool
  | fastRevoke _ | stop _ | takeForRevocation | release _ => false
  | _                                                     => true

-- A thread gives every instruction what it needs, if the `fast_revoke` of the visitors in `done` has
-- run before.
def Ordered (done : VisitorAddress → Prop) : List VisitorInstruction → Prop
  | []        => True
  | i :: rest => (∀ v ∈ i.needs, done v) ∧ Ordered (fun v => done v ∨ v ∈ i.revokes) rest

variable {done done' : VisitorAddress → Prop} {i : VisitorInstruction} {l l' : List VisitorInstruction}

theorem Ordered.mono (h : Ordered done l) (hd : ∀ v, done v → done' v) : Ordered done' l := by
  induction l generalizing done done'
  case nil => trivial
  case cons i l hi => exact ⟨fun v hv => hd v (h.left v hv), hi h.right fun v => Or.imp_left (hd v)⟩

theorem Ordered.append (h : Ordered done l)
    (h' : Ordered (fun v => done v ∨ v ∈ l.flatMap revokes) l') : Ordered done (l ++ l') := by
  induction l generalizing done
  case nil => exact h'.mono (by simp)
  case cons i l hi => exact ⟨h.left, hi h.right (h'.mono fun v => by simp [or_assoc])⟩

theorem Ordered.right (h : Ordered done (l ++ l')) :
    Ordered (fun v => done v ∨ v ∈ l.flatMap revokes) l' := by
  induction l generalizing done
  case nil => exact h.mono fun v => .inl
  case cons i l hi => exact (hi h.right).mono fun v => by simp [or_assoc]

-- The instructions that a call brings along.
structure Fresh (l : List VisitorInstruction) : Prop where
  calm    : ∀ {i}, i ∈ l → i.calm = true
  ordered : ∀ {done}, Ordered done l

namespace Fresh

theorem nil : Fresh [] :=
  ⟨by simp, trivial⟩

theorem single (hc : i.calm = true) (hn : i.needs = []) : Fresh [i] :=
  ⟨by simp [hc], by simp [Ordered, hn]⟩

theorem append (h : Fresh l) (h' : Fresh l') : Fresh (l ++ l') where
  calm hm := (List.mem_append.mp hm).elim h.calm h'.calm
  ordered := h.ordered.append h'.ordered

theorem flatMap {f : VisitorAddress → List VisitorInstruction} {sessions : List VisitorAddress}
    (h : ∀ v, Fresh (f v)) : Fresh (sessions.flatMap f) := by
  induction sessions
  case nil              => exact nil
  case cons v sessions hi => exact (h v).append hi

theorem finish {result : Except String VisitorReply} : Fresh [.finish result] :=
  single rfl rfl

end Fresh

theorem count_fastRevoke_eq_zero (h : ∀ {i}, i ∈ l → i.calm = true) (v : VisitorAddress) :
    l.count (.fastRevoke v) = 0 :=
  List.count_eq_zero.mpr fun hm => by simpa [calm] using h hm

theorem count_stop_eq_zero (h : ∀ {i}, i ∈ l → i.calm = true) (v : VisitorAddress) :
    l.count (.stop v) = 0 :=
  List.count_eq_zero.mpr fun hm => by simpa [calm] using h hm

theorem countP_holdsTransaction_eq_zero (h : ∀ {i}, i ∈ l → i.calm = true) :
    l.countP (·.holdsTransaction) = 0 := by
  refine List.countP_eq_zero.mpr fun i hm => ?_
  have hc := h hm
  cases i <;> simp_all [holdsTransaction, calm]

theorem fresh_failed {caller : AuthorizeCaller} {error : String} : Fresh (caller.failed error) := by
  cases caller <;> exact .single rfl rfl

theorem fresh_succeeded {caller : AuthorizeCaller} : Fresh caller.succeeded := by
  cases caller <;> exact .finish

theorem fresh_markRevoked (v : VisitorAddress) : Fresh (VisitorSessionManager.markRevoked v) :=
  .single rfl rfl

theorem fresh_revoke (v : VisitorAddress) : Fresh (VisitorSessionManager.revoke v) where
  calm    := by simp [VisitorSessionManager.revoke, VisitorSessionManager.markRevoked, calm]
  ordered := by simp [VisitorSessionManager.revoke, VisitorSessionManager.markRevoked, Ordered, needs,
    revokes]

theorem ordered_release {order : List VisitorAddress} :
    Ordered done (order.flatMap VisitorSessionManager.markRevoked ++ [.release order]) := by
  have hm : Fresh (order.flatMap VisitorSessionManager.markRevoked) := .flatMap fresh_markRevoked
  refine hm.ordered.append ⟨fun v hv => .inr ?_, trivial⟩
  simpa [VisitorSessionManager.markRevoked, List.flatMap_assoc, revokes, needs] using hv

end VisitorInstruction

namespace VisitorObservation

def collect (sessions : List VisitorAddress) : VisitorObservation → List VisitorAddress
  | drained order => sessions ++ order
  | released      => []
  | _             => sessions

-- The sessions that were drained since the transaction was last released.
def collected (t : List VisitorObservation) : List VisitorAddress :=
  t.foldl collect []

theorem collected_append {t o : List VisitorObservation} :
    collected (t ++ o) = o.foldl collect (collected t) := by
  simp [collected]

end VisitorObservation

namespace VisitorSessionManager

open VisitorInstruction VisitorObservation

-- Everything that a step can do.
inductive Acts (s : VisitorSessionManager) : List VisitorInstruction → VisitorSessionManager →
    List VisitorInstruction → List VisitorObservation → Prop
  | routine {before after o} {sessions : Table String VisitorAddress} :
    (∀ i ∈ before, i.calm = true ∧ i.revokes = []) → (Fresh after) →
    (sessions.entries.length ≤ s.sessions.entries.length) → (o = [] ∨ ∃ r, o = [.returned r]) →
    Acts s before { s with sessions } after o
  | mint {after permit} :
    (Fresh after) → (RawPersona.Admits s.file permit) → Acts s [] s after [.minted permit]
  | insert {authority id after} :
    (Fresh after) → (s.sessions.entries.length < maxActiveVisitors) →
    Acts s [.insert authority] { s with
      sessions := s.sessions.insert id s.visitors.length
      visitors := s.visitors ++ [.new authority] } after []
  | egress {v m} :
    (s.visitors[v]? = some m) → (m.active = 0) → (RawPersona.Admits s.file m.authority.permit) →
    Acts s [.admitProviderEgress v] (setVisitor { s with permits := v :: s.permits } v
      { m with active := 1 }) [] [.egress v m.authority.permit]
  | dropPermit {v m} :
    (s.visitors[v]? = some m) → (v ∈ s.permits) →
    Acts s [] (setVisitor { s with permits := s.permits.erase v } v
      { m with active := m.active - 1 }) [] []
  | commit {record after o} :
    (∀ {permit}, RawPersona.Admits s.file permit ∨ RawPersona.Outdates s.file permit →
      RawPersona.Outdates (some (.persisted record)) permit) →
    (Fresh after) → (o = [] ∨ o = [.withdrawn]) →
    Acts s [] { s with file := some (.persisted record) } after o
  | collect {record o} :
    (∀ {permit}, RawPersona.Admits s.file permit ∨ RawPersona.Outdates s.file permit →
      RawPersona.Outdates (some (.persisted record)) permit) →
    (s.transaction = false) → (o = [] ∨ o = [.withdrawn]) →
    Acts s [] { s with file := some (.persisted record), transaction := true } [.takeForRevocation] o
  | swapRevoked {v m} :
    (s.visitors[v]? = some m) → (m.revoked = false) →
    Acts s [.swapRevoked v] (s.setVisitor v { m with revoked := true }) [.fastRevoke v] []
  | findRevoked {v m} :
    (s.visitors[v]? = some m) → (m.revoked = true) → Acts s [.swapRevoked v] s [] []
  | fastRevoke {v} : Acts s [.fastRevoke v] s [] [.fastRevoked v]
  | swapStopped {v m} :
    (s.visitors[v]? = some m) → (m.stopped = false) →
    Acts s [.swapStopped v] (s.setVisitor v { m with stopped := true }) [.stop v] []
  | stop {v} : Acts s [.stop v] s [] [.stopped v]
  | drain {order} :
    (order.Perm s.registered) →
    Acts s [.takeForRevocation] { s with sessions := ∅ } (order.flatMap markRevoked ++ [.release order])
      [.drained order]
  | release {sessions} :
    Acts s [.release sessions] { s with transaction := false }
      (sessions.flatMap revoke ++ [.finish (.ok (.owner .changed))]) [.released]

variable {sha256 : Digest} {s s' : VisitorSessionManager} {env : VisitorEnvironment}
  {before after : List VisitorInstruction} {o : List VisitorObservation}

theorem Acts.quiet (hb : ∀ i ∈ before, i.calm = true ∧ i.revokes = []) (h : Fresh after) :
    s.Acts before s after [] :=
  .routine hb h (le_refl _) (.inl rfl)

theorem Acts.erase {sessionId : String} (hb : ∀ i ∈ before, i.calm = true ∧ i.revokes = [])
    (h : Fresh after) : s.Acts before { s with sessions := s.sessions.erase sessionId } after [] :=
  .routine hb h Table.length_erase_le (.inl rfl)

theorem requiredPersona_eq_ok {record : PersistedPersonaV2} (h : s.requiredPersona env = .ok record) :
    s.file = some (.persisted record) := by
  simp only [requiredPersona] at h
  split at h
  case isTrue  => exact RawPersona.requiredPersona_eq_ok h
  case isFalse => cases h

theorem admits_of_workspace {record : PersistedPersonaV2} {workspace : OwnerWorkspaceRecord}
    {permit : VisitorPermit} {message : String} (hr : s.requiredPersona env = .ok record)
    (hw : record.workspace.okOr message = .ok workspace)
    (h : ∃ state, workspace.publication = some state ∧ state.Admits permit) :
    RawPersona.Admits s.file permit := by
  have ⟨state, hs, ha⟩ := h
  refine ⟨state, ?_, ha⟩
  rw [requiredPersona_eq_ok hr]
  simpa [RawPersona.publication, Option.okOr_eq_ok hw] using hs

theorem admitVisitorTurn_admits {token : String} {permit : VisitorPermit}
    (h : s.admitVisitorTurn sha256 env token = .ok permit) : RawPersona.Admits s.file permit := by
  obtain ⟨_, _, h⟩ := Except.bind_eq_ok h
  obtain ⟨record, hr, h⟩ := Except.bind_eq_ok h
  obtain ⟨workspace, hw, h⟩ := Except.bind_eq_ok h
  obtain ⟨_, hp, h⟩ := Except.bind_eq_ok h
  obtain ⟨_, _, h⟩ := Except.bind_eq_ok h
  cases h
  exact admits_of_workspace hr hw (OwnerWorkspaceRecord.visitorPermit_admits hp)

theorem admitVisitorProviderEgress_eq_ok {m m' : ManagedVisitor}
    (h : s.admitVisitorProviderEgress sha256 env m = .ok m') :
    RawPersona.Admits s.file m.authority.permit ∧ m.active = 0 ∧ m' = { m with active := 1 } := by
  obtain ⟨record, hr, h⟩ := Except.bind_eq_ok h
  obtain ⟨workspace, hw, h⟩ := Except.bind_eq_ok h
  obtain ⟨_, _, h⟩ := Except.bind_eq_ok h
  obtain ⟨_, ha, h⟩ := Except.bind_eq_ok h
  refine ⟨admits_of_workspace hr hw (OwnerWorkspaceRecord.authorizeVisitor_admits ha), ?_⟩
  simp only [ManagedVisitor.admitEgress] at h
  split at h
  case isTrue => cases h
  case isFalse =>
    split at h
    case isTrue => cases h
    case isFalse hn =>
      cases h
      exact ⟨by simpa using hn, rfl⟩

theorem fail_acts {error : String} (hb : ∀ i ∈ before, i.calm = true ∧ i.revokes = [])
    (h : s.fail error = (s', after, o)) : s.Acts before s' after o := by
  cases h
  exact .quiet hb .finish

theorem lookup_acts {sessionId : String} {found : VisitorAddress → Step}
    (hf : ∀ {v}, found v = (s', after, o) → s.Acts [] s' after o)
    (h : s.lookup sessionId found = (s', after, o)) : s.Acts [] s' after o := by
  simp only [lookup] at h
  split at h
  case h_1 => exact hf h
  case h_2 => exact fail_acts (by simp) h

theorem ownerRequest_acts {request : OwnerRequest} (ht : s.transaction = false)
    (h : s.ownerRequest sha256 env request = (s', after, o)) : s.Acts [] s' after o := by
  simp only [ownerRequest] at h
  split at h
  case h_1 => exact fail_acts (by simp) h
  case h_2 record reply hp =>
    have hp : request.call.prepare sha256 s.file = .ok (record, reply) := by
      simp only [prepare] at hp
      split at hp
      case isTrue  => exact hp
      case isFalse => cases hp
    have hw {c : Prop} [Decidable c] : (if c then [VisitorObservation.withdrawn] else []) = [] ∨
        (if c then [VisitorObservation.withdrawn] else []) = [.withdrawn] := by
      split <;> simp
    cases ho : env.outcome <;> simp only [ho, CommitOutcome.result, CommitOutcome.file] at h
    case committed =>
      split at h <;> cases h
      case isTrue  => exact .collect (WorkspaceCall.prepare_outdates hp) ht hw
      case isFalse => exact .commit (WorkspaceCall.prepare_outdates hp) .finish hw
    case notReplaced =>
      cases h
      simpa [CommitOutcome.replaces] using Acts.quiet (s := s) (by simp) .finish
    case notFlushed =>
      cases h
      exact .commit (WorkspaceCall.prepare_outdates hp) .finish hw

theorem enter_acts {c : VisitorCall} (h : s.enter sha256 c env = some (s', after, o)) :
    s.Acts [] s' after o := by
  cases c <;> simp only [enter] at h
  case «open» token =>
    split at h
    case isTrue => cases h
    case isFalse =>
      split at h <;> cases h
      case h_1        => exact .quiet (by simp) .finish
      case h_2 permit hp => exact .mint (.single rfl rfl) (admitVisitorTurn_admits hp)
  case authorize =>
    refine lookup_acts (fun h => ?_) (Option.some.inj h)
    cases h
    exact .quiet (by simp) (.single rfl rfl)
  case beginProviderEgress =>
    refine lookup_acts (fun h => ?_) (Option.some.inj h)
    cases h
    exact .quiet (by simp) (.single rfl rfl)
  case close =>
    refine lookup_acts (fun h => ?_) (Option.some.inj h)
    cases h
    exact .erase (by simp) ((fresh_revoke _).append .finish)
  case revokeAll =>
    split at h <;> cases h
    have hf : Fresh (env.order.flatMap markRevoked ++ env.order.flatMap revoke) :=
      (Fresh.flatMap fresh_markRevoked).append (.flatMap fresh_revoke)
    exact .routine (by simp) (hf.append .finish) (Nat.zero_le _) (.inl rfl)
  case dropPermit v =>
    obtain ⟨m, hm, h⟩ := Option.bind_eq_some_iff.mp h
    split at h <;> cases h
    case isTrue hv => exact .dropPermit hm hv
  case owner request =>
    split at h
    case isTrue     => cases h
    case isFalse ht => exact ownerRequest_acts (by simpa using ht) (Option.some.inj h)

theorem insertVisitor_acts {authority : Rt1VisitorSession}
    (h : s.insertVisitor env authority = (s', after, o)) : s.Acts [.insert authority] s' after o := by
  have hb : ∀ i ∈ [VisitorInstruction.insert authority], i.calm = true ∧ i.revokes = [] := by
    simp [calm, revokes]
  simp only [insertVisitor] at h
  split at h
  case h_1 => exact fail_acts hb h
  case h_2 =>
    split at h
    case isTrue => exact fail_acts hb h
    case isFalse hc =>
      split at h
      case isTrue => exact fail_acts hb h
      case isFalse =>
        cases h
        exact .insert (.single rfl rfl) (by omega)

theorem execute_acts {i : VisitorInstruction} (h : s.execute sha256 i env = some (s', after, o)) :
    s.Acts [i] s' after o := by
  have hb (hc : i.calm = true) (hr : i.revokes = []) : ∀ j ∈ [i], j.calm = true ∧ j.revokes = [] := by
    simp [hc, hr]
  cases i <;> simp only [execute] at h
  case insert => exact insertVisitor_acts (Option.some.inj h)
  case admitProviderEgress v =>
    obtain ⟨m, hm, h⟩ := Option.bind_eq_some_iff.mp h
    split at h
    case isTrue => cases h
    case isFalse =>
      split at h
      case h_1 =>
        cases h
        exact .quiet (hb rfl rfl) (.single rfl rfl)
      case h_2 m' he =>
        obtain ⟨ha, hz, rfl⟩ := admitVisitorProviderEgress_eq_ok he
        cases h
        exact .egress hm hz ha
  case loadRevoked =>
    obtain ⟨m, _, h⟩ := Option.bind_eq_some_iff.mp h
    split at h <;> cases h
    case isTrue  => exact .quiet (hb rfl rfl) fresh_failed
    case isFalse => exact .quiet (hb rfl rfl) (.single rfl rfl)
  case authorizeVisitor =>
    obtain ⟨m, _, h⟩ := Option.bind_eq_some_iff.mp h
    split at h
    case isTrue => cases h
    case isFalse =>
      split at h <;> cases h
      case h_1 => exact .quiet (hb rfl rfl) ((fresh_revoke _).append fresh_failed)
      case h_2 => exact .quiet (hb rfl rfl) (.single rfl rfl)
  case reloadRevoked =>
    obtain ⟨m, _, h⟩ := Option.bind_eq_some_iff.mp h
    split at h <;> cases h
    case isTrue  => exact .quiet (hb rfl rfl) fresh_failed
    case isFalse => exact .quiet (hb rfl rfl) fresh_succeeded
  case discard =>
    split at h <;> cases h
    case h_1 => exact .quiet (hb rfl rfl) .finish
    case h_2 => exact .erase (hb rfl rfl) ((fresh_revoke _).append .finish)
  case swapRevoked =>
    obtain ⟨m, hm, h⟩ := Option.bind_eq_some_iff.mp h
    split at h <;> cases h
    case isTrue hr  => exact .findRevoked hm hr
    case isFalse hr => exact .swapRevoked hm (by simpa using hr)
  case swapStopped =>
    obtain ⟨m, hm, h⟩ := Option.bind_eq_some_iff.mp h
    split at h <;> cases h
    case isTrue     => exact .quiet (hb rfl rfl) .nil
    case isFalse hr => exact .swapStopped hm (by simpa using hr)
  case takeForRevocation =>
    split at h <;> cases h
    case isTrue hp => exact .drain (List.isPerm_iff.mp hp)
  case finish =>
    cases h
    exact .routine (hb rfl rfl) .nil (le_refl _) (.inr ⟨_, rfl⟩)
  case fastRevoke =>
    cases h
    exact .fastRevoke
  case stop =>
    cases h
    exact .stop
  case release =>
    cases h
    exact .release

-- What a visitor shows of itself, or `a` where none is allocated.
def view {α : Type} (visitors : List ManagedVisitor) (f : ManagedVisitor → α) (a : α)
    (v : VisitorAddress) : α :=
  visitors[v]?.elim a f

def revoked (s : VisitorSessionManager) : VisitorAddress → Bool :=
  view s.visitors (·.revoked) false

def stopped (s : VisitorSessionManager) : VisitorAddress → Bool :=
  view s.visitors (·.stopped) false

def active (s : VisitorSessionManager) : VisitorAddress → Nat :=
  view s.visitors (·.active) 0

section View

variable {α : Type} {f : ManagedVisitor → α} {a : α} {v w : VisitorAddress} {m m' : ManagedVisitor}
  {visitors : List ManagedVisitor}

theorem view_eq (h : visitors[v]? = some m) : view visitors f a v = f m := by
  simp [view, h]

theorem view_set (h : visitors[v]? = some m) :
    view (visitors.set v m') f a w = if w = v then f m' else view visitors f a w := by
  have hv := (List.getElem?_eq_some_iff.mp h).choose
  by_cases hw : w = v
  case pos => simp [view, hw, hv]
  case neg => simp [view, hw, List.getElem?_set_ne (Ne.symm hw)]

theorem view_set_of_eq (h : visitors[v]? = some m) (hf : f m' = f m) :
    view (visitors.set v m') f a = view visitors f a := by
  funext w
  rw [view_set h]
  split
  case isTrue hw => rw [hw, hf, view_eq h]
  case isFalse   => rfl

-- A new visitor shows what no visitor shows.
theorem view_append (h : f m = a) : view (visitors ++ [m]) f a = view visitors f a := by
  funext w
  obtain hw | hw | hw := Nat.lt_trichotomy w visitors.length
  case inl      => simp [view, List.getElem?_append_left hw]
  case inr.inl  => simp [view, hw, h]
  case inr.inr  =>
    have hn : (visitors ++ [m]).length ≤ w := by simpa [Nat.succ_le_iff] using hw
    simp [view, List.getElem?_eq_none hn, List.getElem?_eq_none (le_of_lt hw)]

end View

-- The permits of a visitor are what its counter says, and there is room in the registry.
structure Accounted (s : VisitorSessionManager) : Prop where
  permits  : ∀ v, s.permits.count v = s.active v
  active   : ∀ v, s.active v ≤ 1
  capacity : s.sessions.entries.length ≤ maxActiveVisitors

theorem Accounted.setVisitor {v : VisitorAddress} {m m' : ManagedVisitor} {permits : List VisitorAddress}
    (h : s.Accounted) (hm : s.visitors[v]? = some m) (hp : permits.count v = m'.active)
    (ho : ∀ w, w ≠ v → permits.count w = s.permits.count w) (hl : m'.active ≤ 1) :
    (VisitorSessionManager.setVisitor { s with permits } v m').Accounted := by
  refine ⟨fun w => ?permits, fun w => ?active, h.capacity⟩
  all_goals
    simp only [VisitorSessionManager.setVisitor, VisitorSessionManager.active, view_set hm]
    split
  case permits.isTrue hw  => rw [hw, hp]
  case permits.isFalse hw => exact (ho w hw).trans (h.permits w)
  case active.isTrue      => exact hl
  case active.isFalse     => exact h.active w

namespace Acts

theorem accounted (h : s.Acts before s' after o) (ha : s.Accounted) : s'.Accounted := by
  have hv (hp : s'.permits = s.permits) (hv : s'.active = s.active)
      (hc : s'.sessions.entries.length ≤ maxActiveVisitors) : s'.Accounted :=
    ⟨by rw [hp, hv]; exact ha.permits, by rw [hv]; exact ha.active, hc⟩
  cases h
  case routine hs _ _ _ => exact hv rfl rfl (le_trans hs ha.capacity)
  case drain            => exact hv rfl rfl (Nat.zero_le _)
  case insert hs _ => exact hv rfl (view_append rfl) (le_trans Table.length_insert_le hs)
  case swapRevoked hm _ => exact hv rfl (view_set_of_eq hm rfl) ha.capacity
  case swapStopped hm _ => exact hv rfl (view_set_of_eq hm rfl) ha.capacity
  case egress v m hm hz _ =>
    have hc : s.permits.count v = 0 := by rw [ha.permits, active, view_eq hm, hz]
    exact ha.setVisitor hm (by simp [hc]) (fun w hw => by simp [Ne.symm hw]) (le_refl _)
  case dropPermit v m hm _ =>
    have hc : s.permits.count v = m.active := by rw [ha.permits, active, view_eq hm]
    have hl : m.active ≤ 1 := hc ▸ ha.permits v ▸ ha.active v
    refine ha.setVisitor hm ?_ (fun w hw => List.count_erase_of_ne hw) (le_trans (Nat.sub_le _ _) hl)
    rw [List.count_erase_self, hc]
  all_goals exact hv rfl rfl ha.capacity

-- What a step owes to the threads: a flag that is set has its callback, which is still to be executed
-- or is seen, and a transaction that is held has a thread that holds it.
structure Balance (s : VisitorSessionManager) (before : List VisitorInstruction)
    (s' : VisitorSessionManager) (after : List VisitorInstruction) (o : List VisitorObservation) :
    Prop where
  fastRevoked : ∀ v, o.count (.fastRevoked v) + after.count (.fastRevoke v) + (s.revoked v).toNat =
    before.count (.fastRevoke v) + (s'.revoked v).toNat
  stopped     : ∀ v, o.count (.stopped v) + after.count (.stop v) + (s.stopped v).toNat =
    before.count (.stop v) + (s'.stopped v).toNat
  transaction : before.countP (·.holdsTransaction) ≤ s.transaction.toNat →
    after.countP (·.holdsTransaction) + s.transaction.toNat =
      before.countP (·.holdsTransaction) + s'.transaction.toNat

theorem Balance.of_calm (hb : ∀ {i}, i ∈ before → i.calm = true) (ha : ∀ {i}, i ∈ after → i.calm = true)
    (hf : ∀ v, .fastRevoked v ∉ o) (hs : ∀ v, .stopped v ∉ o) (hr : s'.revoked = s.revoked)
    (hp : s'.stopped = s.stopped) (ht : s'.transaction = s.transaction) :
    Balance s before s' after o where
  fastRevoked v := by
    simp [count_fastRevoke_eq_zero hb, count_fastRevoke_eq_zero ha, List.count_eq_zero.mpr (hf v), hr]
  stopped v := by
    simp [count_stop_eq_zero hb, count_stop_eq_zero ha, List.count_eq_zero.mpr (hs v), hp]
  transaction _ := by
    simp [countP_holdsTransaction_eq_zero hb, countP_holdsTransaction_eq_zero ha, ht]

theorem balance (h : s.Acts before s' after o) : Balance s before s' after o := by
  cases h
  case routine hb hf ho =>
    obtain rfl | ⟨_, rfl⟩ := ho
    all_goals exact .of_calm (fun hm => (hb _ hm).left) hf.calm (by simp) (by simp) rfl rfl rfl
  case mint hf => exact .of_calm (by simp) hf.calm (by simp) (by simp) rfl rfl rfl
  case insert hf =>
    exact .of_calm (by simp [calm]) hf.calm (by simp) (by simp) (view_append rfl) (view_append rfl) rfl
  case egress hm _ _ =>
    exact .of_calm (by simp [calm]) (by simp) (by simp) (by simp) (view_set_of_eq hm rfl)
      (view_set_of_eq hm rfl) rfl
  case dropPermit hm _ =>
    exact .of_calm (by simp) (by simp) (by simp) (by simp) (view_set_of_eq hm rfl)
      (view_set_of_eq hm rfl) rfl
  case commit hf ho =>
    obtain rfl | rfl := ho
    all_goals exact .of_calm (by simp) hf.calm (by simp) (by simp) rfl rfl rfl
  case findRevoked => exact .of_calm (by simp [calm]) (by simp) (by simp) (by simp) rfl rfl rfl
  case collect _ ht ho =>
    have hf : ∀ v, o.count (.fastRevoked v) = 0 ∧ o.count (.stopped v) = 0 := by
      obtain rfl | rfl := ho <;> simp
    exact ⟨fun v => by simp [hf, revoked], fun v => by simp [hf, stopped],
      fun _ => by simp [ht, holdsTransaction]⟩
  case fastRevoke v =>
    refine ⟨fun w => ?_, fun w => by simp, fun _ => by simp [holdsTransaction]⟩
    by_cases hw : v = w <;> simp [hw]
  case stop v =>
    refine ⟨fun w => by simp, fun w => ?_, fun _ => by simp [holdsTransaction]⟩
    by_cases hw : v = w <;> simp [hw]
  case swapRevoked v m hm hr =>
    refine ⟨fun w => ?_, fun w => ?_, fun _ => by simp [holdsTransaction, setVisitor]⟩
    · have he := view_eq (f := ManagedVisitor.revoked) (a := false) hm
      by_cases hw : w = v
      · simp [setVisitor, revoked, view_set hm, hw, he, hr]
      · simp [setVisitor, revoked, view_set hm, hw, Ne.symm hw]
    · simp [setVisitor, stopped, view_set_of_eq hm]
  case swapStopped v m hm hr =>
    refine ⟨fun w => ?_, fun w => ?_, fun _ => by simp [holdsTransaction, setVisitor]⟩
    · simp [setVisitor, revoked, view_set_of_eq hm]
    · have he := view_eq (f := ManagedVisitor.stopped) (a := false) hm
      by_cases hw : w = v
      · simp [setVisitor, stopped, view_set hm, hw, he, hr]
      · simp [setVisitor, stopped, view_set hm, hw, Ne.symm hw]
  case drain order _ =>
    have hf : Fresh (order.flatMap markRevoked) := .flatMap fresh_markRevoked
    refine ⟨fun v => ?_, fun v => ?_, fun _ => ?_⟩
    · simp [count_fastRevoke_eq_zero hf.calm, revoked]
    · simp [count_stop_eq_zero hf.calm, stopped]
    · rw [List.countP_append, countP_holdsTransaction_eq_zero hf.calm]
      simp [holdsTransaction]
  case release sessions =>
    have hf : Fresh (sessions.flatMap revoke ++ [.finish (.ok (.owner .changed))]) :=
      (Fresh.flatMap fresh_revoke).append .finish
    refine ⟨fun v => ?_, fun v => ?_, fun ht => ?_⟩
    · simp only [count_fastRevoke_eq_zero hf.calm]
      simp [revoked]
    · simp only [count_stop_eq_zero hf.calm]
      simp [stopped]
    · simp only [countP_holdsTransaction_eq_zero hf.calm]
      cases hs : s.transaction <;> simp_all [holdsTransaction]

-- What a callback or a drain that is observed has to do with the step.
def Origin (s : VisitorSessionManager) (before : List VisitorInstruction) : VisitorObservation → Prop
  | .stopped v     => before = [.stop v]
  | .drained order => order.Perm s.registered
  | _              => True

theorem observes (h : s.Acts before s' after o) : o = [] ∨ ∃ x, o = [x] ∧ Origin s before x := by
  cases h
  case routine ho =>
    obtain rfl | ⟨_, rfl⟩ := ho
    · exact .inl rfl
    · exact .inr ⟨_, rfl, trivial⟩
  case commit ho  => exact ho.imp_right fun h => ⟨.withdrawn, h, trivial⟩
  case collect ho => exact ho.imp_right fun h => ⟨.withdrawn, h, trivial⟩
  case drain hp   => exact .inr ⟨_, rfl, hp⟩
  all_goals simp [Origin]

-- A step either leaves the file alone, and then only its current epoch counts, or outdates all permits.
theorem file_cases (h : s.Acts before s' after o) :
    (s'.file = s.file ∧ .withdrawn ∉ o ∧
      (∀ permit, .minted permit ∈ o → RawPersona.Admits s.file permit) ∧
      ∀ v permit, .egress v permit ∈ o → RawPersona.Admits s.file permit) ∨
    ((o = [] ∨ o = [.withdrawn]) ∧
      ∀ {permit}, RawPersona.Admits s.file permit ∨ RawPersona.Outdates s.file permit →
        RawPersona.Outdates s'.file permit) := by
  cases h
  case commit hu _ ho  => exact .inr ⟨ho, hu⟩
  case collect hu _ ho => exact .inr ⟨ho, hu⟩
  case routine ho =>
    obtain rfl | ⟨_, rfl⟩ := ho
    all_goals exact .inl (by simp)
  case mint hp _       => exact .inl (by simpa using hp)
  case egress hp       => exact .inl (by simpa [setVisitor] using hp)
  all_goals exact .inl (by simp [setVisitor])

-- A thread stays ordered, if it may count on the `fast_revoke` of a visitor that it finds revoked.
theorem ordered {done : VisitorAddress → Prop} {rest : List VisitorInstruction}
    (h : s.Acts before s' after o) (hd : ∀ {v}, before = [.swapRevoked v] → s.revoked v = true → done v)
    (hr : Ordered done (before ++ rest)) :
    Ordered (fun v => done v ∨ .fastRevoked v ∈ o) (after ++ rest) := by
  have hf (hn : before.flatMap revokes = []) (hf : Fresh after) :
      Ordered (fun v => done v ∨ .fastRevoked v ∈ o) (after ++ rest) :=
    hf.ordered.append (hr.right.mono fun v => by simpa [hn] using fun h => .inl (.inl h))
  cases h
  case routine hb hf' _ => exact hf (List.flatMap_eq_nil_iff.mpr fun i hm => (hb i hm).right) hf'
  case mint hf'         => exact hf rfl hf'
  case insert hf'       => exact hf rfl hf'
  case commit hf' _     => exact hf rfl hf'
  case egress           => exact hf rfl .nil
  case dropPermit       => exact hf rfl .nil
  case stop             => exact hf rfl .nil
  case release          => exact hf rfl ((Fresh.flatMap fresh_revoke).append .finish)
  case collect          => exact ⟨by simp [needs], hr.mono fun v h => .inl (.inl h)⟩
  case drain            => exact ordered_release.append (hr.right.mono fun v => by simp_all [revokes])
  case swapRevoked v _ _ _ => exact ⟨by simp [needs], hr.right.mono fun w => by simp [revokes]⟩
  case fastRevoke v     => exact hr.right.mono fun w => by simp [revokes]
  case findRevoked v m hm hs =>
    have hv : done v := hd rfl (by rw [revoked, view_eq hm, hs])
    exact hr.right.mono fun w => by simp +contextual [revokes, or_imp, hv]
  case swapStopped v _ _ _ =>
    have hv : done v := hr.left v (by simp [needs])
    exact ⟨by simpa [needs] using hv, hr.right.mono fun w => by simp [revokes]⟩

-- A drained session is with the thread that has drained it until that thread releases it.
theorem collected_cases {t : List VisitorObservation} (h : s.Acts before s' after o) :
    (∃ sessions, before = [.release sessions] ∧ o = [.released]) ∨
    ((∀ sessions, .release sessions ∉ before) ∧ .released ∉ o ∧
      ∀ {v}, v ∈ collected (t ++ o) →
        v ∈ collected t ∨ ∃ sessions, .release sessions ∈ after ∧ v ∈ sessions) := by
  rw [collected_append]
  cases h
  case release => exact .inl ⟨_, rfl, rfl⟩
  case drain order _ =>
    refine .inr ⟨by simp, by simp, fun h => ?_⟩
    exact (List.mem_append.mp h).imp_right fun h => ⟨order, by simp, h⟩
  case routine hb _ ho =>
    have hr (sessions) : .release sessions ∉ before := fun hm => by simpa [calm] using (hb _ hm).left
    obtain rfl | ⟨_, rfl⟩ := ho
    all_goals exact .inr ⟨hr, by simp, .inl⟩
  case commit ho =>
    obtain rfl | rfl := ho
    all_goals exact .inr ⟨by simp, by simp, .inl⟩
  case collect ho =>
    obtain rfl | rfl := ho
    all_goals exact .inr ⟨by simp, by simp, .inl⟩
  all_goals exact .inr ⟨by simp, by simp, .inl⟩

end Acts

end VisitorSessionManager
