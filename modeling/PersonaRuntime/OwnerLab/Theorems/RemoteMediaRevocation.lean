import PersonaRuntime.OwnerLab.RemoteMediaRevocation

variable {t o : List RevocationObservation} {i : Nat} {call : RevocationCall} {reply : WorkerReply}

namespace Rt1RemoteMediaRevocation

variable {b b' : Rt1RemoteMediaRevocation}

-- What is never taken back.
structure Advances (b b' : Rt1RemoteMediaRevocation) : Prop where
  revoked  : b.revoked = true → b'.revoked = true
  conflict : b.identityConflict = true → b'.identityConflict = true
  created  : ∀ {id}, b.createdSessionId = some id → b'.createdSessionId = some id

theorem Advances.refl (b : Rt1RemoteMediaRevocation) : b.Advances b :=
  ⟨id, id, id⟩

theorem Advances.trans {b₁ b₂ b₃ : Rt1RemoteMediaRevocation} (h₁ : b₁.Advances b₂)
    (h₂ : b₂.Advances b₃) : b₁.Advances b₃ where
  revoked h  := h₂.revoked (h₁.revoked h)
  conflict h := h₂.conflict (h₁.conflict h)
  created h  := h₂.created (h₁.created h)

-- A STOP is confirmed by the receipt of a sender that no recorded CREATE contradicts.
structure Confirms (t : List RevocationObservation) (b : Rt1RemoteMediaRevocation) (id : String) :
    Prop where
  stored  : b.confirmedSessionId = some id
  stopped : ∃ i, .stopped i id ∈ t
  created : ∀ {id'}, b.createdSessionId = some id' → id' = id

structure Sound (t : List RevocationObservation) (b : Rt1RemoteMediaRevocation) : Prop where
  conflict  : b.identityConflict = true → b.confirmed = false ∧ b.revoked = true
  confirmed : b.confirmed = true → b.revoked = true ∧ ∃ id, b.Confirms t id

theorem Confirms.append {id : String} (h : b.Confirms t id) : b.Confirms (t ++ o) id where
  stored  := h.stored
  stopped := h.stopped.imp fun _ h => List.mem_append_left _ h
  created := h.created

theorem Sound.append (h : b.Sound t) : b.Sound (t ++ o) where
  conflict    := h.conflict
  confirmed hc := (h.confirmed hc).imp_right fun ⟨id, hi⟩ => ⟨id, hi.append⟩

theorem Sound.revoke (h : b.Sound t) : Sound t { b with revoked := true } where
  conflict hc  := ⟨(h.conflict hc).left, rfl⟩
  confirmed hc :=
    have ⟨_, id, hi⟩ := h.confirmed hc
    ⟨rfl, id, hi.stored, hi.stopped, hi.created⟩

end Rt1RemoteMediaRevocation

open Rt1RemoteMediaRevocation

variable {b b' : Rt1RemoteMediaRevocation}

-- What the checks of a call have found that still holds, whatever happens outside of the gate.
def CancelPoint.Holds (t : List RevocationObservation) (b : Rt1RemoteMediaRevocation) : CancelPoint → Prop
  | conflict    => True
  | confirmed   => b.identityConflict = false
  | worker      => b.identityConflict = false
  | identity id => b.identityConflict = false ∧ ∃ i, .stopped i id ∈ t

-- Only a revocation succeeds by a STOP.
def RevocationCall.Ends (call : RevocationCall) (result : Except String Unit) : Prop :=
  call = revokeConfirmed ∨ ∃ e, result = .error e

def GatePoint.Holds (t : List RevocationObservation) (b : Rt1RemoteMediaRevocation) (i : Nat)
    (call : RevocationCall) : GatePoint → Prop
  | recordConflict id   => call = .recordCreatedSession id
  | recordIdentity id   => call = .recordCreatedSession id
  | recordRevoked id    => call = .recordCreatedSession id ∧ b.createdSessionId = some id
  | recordConfirmed     => (∃ id, call = .recordCreatedSession id) ∧ b.revoked = true
  | revokeConfirmed     => call = .revokeConfirmed ∧ b.revoked = true
  | answerRevoked       => ∃ sdp, call = .submitAnswer sdp
  | answer              => (∃ sdp, call = .submitAnswer sdp) ∧ .admitted i ∈ t
  | answerAccepted      => (∃ sdp, call = .submitAnswer sdp) ∧ [.admitted i, .answered i true].Sublist t
  | cancel result point => call.Ends result ∧ b.revoked = true ∧ point.Holds t b

-- What a call may rely on when it returns.
def RevocationCall.Returns (t : List RevocationObservation) (b : Rt1RemoteMediaRevocation) (i : Nat)
    (result : Except String Unit) : RevocationCall → Prop
  | recordCreatedSession id => result = .ok () → b.revoked = false ∧ b.createdSessionId = some id
  | revokeConfirmed         => True
  | submitAnswer _          =>
    (result = .ok () → b.revoked = false ∧ [.admitted i, .answered i true].Sublist t) ∧
    (result ≠ .ok () → b.revoked = true)

def GateProgress.Holds (t : List RevocationObservation) (b : Rt1RemoteMediaRevocation) (i : Nat)
    (call : RevocationCall) : GateProgress → Prop
  | next point     => point.Holds t b i call
  | returns result => call.Returns t b i result

-- What happens outside of the gate takes nothing from its holder.
theorem GatePoint.Holds.mono {point : GatePoint} (h : point.Holds t b i call)
    (hr : b.revoked = true → b'.revoked = true) (hc : b'.identityConflict = b.identityConflict)
    (hi : b'.createdSessionId = b.createdSessionId) : point.Holds (t ++ o) b' i call := by
  cases point
  case recordRevoked  => exact ⟨h.left, hi ▸ h.right⟩
  case answer         => exact h.imp_right (List.mem_append_left _)
  case answerAccepted => exact h.imp_right (List.Sublist.trans · (List.sublist_append_left ..))
  case recordConfirmed | revokeConfirmed => exact ⟨h.left, hr h.right⟩
  case cancel result point =>
    obtain ⟨he, hb, hp⟩ := h
    refine ⟨he, hr hb, ?_⟩
    cases point
    case conflict           => trivial
    case confirmed | worker => exact hc.trans hp
    case identity           => exact ⟨hc.trans hp.left, hp.right.imp fun _ => List.mem_append_left _⟩
  all_goals exact h

theorem RevocationCall.returns_error {e : String} (h : b.revoked = true) :
    call.Returns t b i (.error e) := by
  cases call <;> simp [Returns, h]

theorem RevocationCall.Ends.returns {result : Except String Unit} (h : call.Ends result)
    (hr : b.revoked = true) : call.Returns t b i result := by
  rcases h with rfl | ⟨e, rfl⟩
  case inl => trivial
  case inr => exact returns_error hr

-- What leaves the operation revoked: a revocation, or an answer that fails.
def RevocationObservation.revokes : RevocationObservation → Bool
  | revoked _                               => true
  | returned _ (.submitAnswer _) (.error _) => true
  | _                                       => false

namespace Rt1RemoteMediaRevocation

-- What is left of a step of the holder of the gate.
structure Executed (t : List RevocationObservation) (b : Rt1RemoteMediaRevocation) (i : Nat)
    (call : RevocationCall) (r : Rt1RemoteMediaRevocation × GateProgress × List RevocationObservation) :
    Prop where
  advances : b.Advances r.1
  sound    : r.1.Sound (t ++ r.2.2)
  holds    : r.2.1.Holds (t ++ r.2.2) r.1 i call

-- A step that only looks.
theorem Executed.look {progress : GateProgress} (h : b.Sound t) (hp : progress.Holds (t ++ o) b i call) :
    Executed t b i call (b, progress, o) :=
  ⟨.refl b, h.append, hp⟩

theorem Sound.record (h : b.Sound t) {sessionId : String}
    (hc : ¬b.confirmedSessionId.any (· ≠ sessionId) = true) :
    Sound t { b with createdSessionId := some sessionId } where
  conflict hi := h.conflict hi
  confirmed hi := by
    obtain ⟨hr, id, hs⟩ := h.confirmed hi
    obtain rfl : id = sessionId := by simpa [hs.stored] using hc
    exact ⟨hr, id, hs.stored, hs.stopped, fun h => by simpa using h.symm⟩

theorem cancelLocked_executed {result : Except String Unit} {point : CancelPoint} (h : b.Sound t)
    (hp : (GatePoint.cancel result point).Holds t b i call) :
    Executed t b i call (b.cancelLocked i reply result point) := by
  obtain ⟨he, hr, hp⟩ := hp
  cases point <;> simp only [cancelLocked]
  case conflict =>
    split
    case isTrue    => exact .look h (RevocationCall.returns_error hr)
    case isFalse n => exact .look h ⟨he, hr, by simpa [CancelPoint.Holds] using n⟩
  case confirmed =>
    split
    case isTrue  => exact .look h (he.returns hr)
    case isFalse => exact .look h ⟨he, hr, hp⟩
  case worker =>
    split
    case h_1    => exact .look h (RevocationCall.returns_error hr)
    case h_2 id => exact .look h ⟨he, hr, hp, i, by simp⟩
  case identity sessionId =>
    obtain ⟨hc, hs⟩ := hp
    split
    case isTrue =>
      exact ⟨⟨id, fun _ => rfl, id⟩, ⟨fun _ => ⟨rfl, hr⟩, by simp⟩, RevocationCall.returns_error hr⟩
    case isFalse hn =>
      refine ⟨⟨id, id, id⟩, ⟨fun hi => ?_, fun _ => ⟨hr, sessionId, rfl, ?_, fun hi => ?_⟩⟩, he.returns hr⟩
      · simp [hc] at hi
      · simpa using hs
      · have hi : b.createdSessionId = some _ := hi
        simpa [hi] using hn

theorem execute_executed {point : GatePoint}
    {r : Rt1RemoteMediaRevocation × GateProgress × List RevocationObservation}
    (h : b.Sound t) (hp : point.Holds t b i call) (he : b.execute i reply point = r) :
    Executed t b i call r := by
  subst he
  cases point <;> simp only [execute]
  case cancel => exact cancelLocked_executed h hp
  case recordConflict id =>
    split
    case isTrue hc  => exact .look h (RevocationCall.returns_error (h.conflict hc).right)
    case isFalse    => exact .look h hp
  case recordIdentity sessionId =>
    obtain rfl : call = _ := hp
    split
    case isTrue => exact ⟨⟨fun _ => rfl, fun _ => rfl, id⟩, ⟨fun _ => ⟨rfl, rfl⟩, nofun⟩, nofun⟩
    case isFalse hn =>
      obtain ⟨hm, hs⟩ := not_or.mp hn
      refine ⟨⟨id, id, fun {id'} hi => ?_⟩, (h.record hs).append, rfl, rfl⟩
      obtain rfl : id' = sessionId := by simpa [hi] using hm
      rfl
  case recordRevoked id =>
    obtain ⟨rfl, hi⟩ := hp
    split
    case isTrue hr  => exact .look h ⟨⟨id, rfl⟩, hr⟩
    case isFalse hr => exact .look h fun _ => ⟨by simpa using hr, hi⟩
  case recordConfirmed =>
    obtain ⟨⟨id, rfl⟩, hr⟩ := hp
    split
    case isTrue  => exact .look h nofun
    case isFalse => exact .look h ⟨.inr ⟨_, rfl⟩, hr, trivial⟩
  case revokeConfirmed =>
    obtain ⟨rfl, hr⟩ := hp
    split
    case isTrue  => exact .look h trivial
    case isFalse => exact .look h ⟨.inl rfl, hr, trivial⟩
  case answerRevoked =>
    split
    case isTrue hr => exact .look h (RevocationCall.returns_error hr)
    case isFalse   => exact .look h ⟨hp, by simp⟩
  case answer =>
    obtain ⟨hc, ha⟩ := hp
    split
    case isTrue => exact .look h ⟨hc, (List.singleton_sublist.mpr ha).append (.refl _)⟩
    case isFalse =>
      exact ⟨⟨fun _ => rfl, id, id⟩, h.revoke.append, .inr ⟨_, rfl⟩, rfl, trivial⟩
  case answerAccepted =>
    obtain ⟨⟨sdp, rfl⟩, hs⟩ := hp
    split
    case isTrue hr => exact .look h ⟨.inr ⟨_, rfl⟩, hr, trivial⟩
    case isFalse hr =>
      exact .look h ⟨fun _ => ⟨by simpa using hr, by simpa using hs⟩, fun h => absurd rfl h⟩

theorem execute_quiet (b : Rt1RemoteMediaRevocation) (i : Nat) (reply : WorkerReply) (point : GatePoint) :
    ∀ x ∈ (b.execute i reply point).2.2, x.revokes = false ∧ ∀ j call result, x ≠ .returned j call result := by
  cases point <;> simp only [execute]
  case cancel point =>
    cases point <;> simp only [cancelLocked] <;> split <;> simp [RevocationObservation.revokes]
  all_goals split <;> simp [RevocationObservation.revokes]

theorem execute_returns {point : GatePoint} {result : Except String Unit}
    (h : b.execute i reply point = (b', .returns result, o)) : o = [] := by
  cases point <;> simp only [execute] at h
  case cancel point =>
    cases point <;> simp only [cancelLocked] at h <;> split at h <;> cases h <;> rfl
  all_goals split at h <;> cases h <;> rfl

end Rt1RemoteMediaRevocation

namespace RevocationRuntime

variable {s s' : RevocationRuntime} {e : RevocationEvent}

-- Everything that a step can do.
inductive Move (s : RevocationRuntime) : RevocationRuntime → List RevocationObservation → Prop
  | invalid {id e} :
    Move s { s with calls := s.calls + 1 } [.returned s.calls (.recordCreatedSession id) (.error e)]
  | entered {c} : (c ≠ .revokeConfirmed) → Move s (s.enter c) []
  | revoked : Move s ({ s with bridge.revoked := true }.enter .revokeConfirmed) [.revoked s.calls]
  | acquired {k c} : (s.waiting[k]? = some c) →
    Move s { s with waiting := s.waiting.eraseIdx k, gate := some (c, c.call.first) } []
  | advanced {c point reply bridge point' o} : (s.gate = some (c, point)) →
    (s.bridge.execute c.i reply point = (bridge, .next point', o)) →
    Move s { s with bridge, gate := some (c, point') } o
  | returned {c point reply bridge result o} : (s.gate = some (c, point)) →
    (s.bridge.execute c.i reply point = (bridge, .returns result, o)) →
    Move s { s with bridge, gate := none } (o ++ [.returned c.i c.call result])

theorem step_move (h : machine.step s e = some (s', o)) : s.Move s' o := by
  cases e
  case call c =>
    cases c <;> simp only [machine] at h
    case recordCreatedSession id =>
      split at h <;> cases h
      case isTrue  => exact .invalid
      case isFalse => exact .entered nofun
    case revokeConfirmed =>
      cases h
      exact .revoked
    case submitAnswer =>
      cases h
      exact .entered nofun
  case acquire k =>
    simp only [machine] at h
    split at h <;> cases h
    case h_1 hk => exact .acquired hk
  case resume reply =>
    simp only [machine] at h
    split at h
    case h_1 => cases h
    case h_2 c point hg =>
      split at h <;> cases h
      case h_1 hp => exact .advanced hg (Prod.ext rfl (Prod.ext hp rfl))
      case h_2 hp => exact .returned hg (Prod.ext rfl (Prod.ext hp rfl))

-- Nothing that was observed is at odds with the flag.
structure Traced (t : List RevocationObservation) (b : Rt1RemoteMediaRevocation) : Prop where
  revoked : ∀ {x}, x ∈ t → x.revokes = true → b.revoked = true
  closed  : ∀ {x i sdp}, x.revokes = true → ¬[x, .returned i (.submitAnswer sdp) (.ok ())].Sublist t

theorem Traced.quiet (h : Traced t b) (hb : b.revoked = true → b'.revoked = true)
    (ho : ∀ x ∈ o, x.revokes = false ∧ ∀ i call result, x ≠ .returned i call result) :
    Traced (t ++ o) b' where
  revoked hx hr := by
    rcases List.mem_append.mp hx with hx | hx
    case inl => exact hb (h.revoked hx hr)
    case inr => simp [(ho _ hx).left] at hr
  closed {x i sdp} hr hs := by
    refine h.closed hr (Machine.sublist_of_notMem (l := [x]) hs fun hy => ?_)
    exact (ho _ hy).right _ _ _ rfl

theorem Traced.returned {result : Except String Unit} (h : Traced t b) (hr : call.Returns t b i result) :
    Traced (t ++ [.returned i call result]) b where
  revoked hx hx' := by
    rcases List.mem_append.mp hx with hx | hx
    case inl => exact h.revoked hx hx'
    case inr =>
      obtain rfl := List.mem_singleton.mp hx
      cases call <;> cases result <;> simp [RevocationObservation.revokes] at hx'
      exact hr.right nofun
  closed {x j sdp} hx hs := by
    obtain hs' | ⟨hs', he⟩ := Machine.sublist_snoc (l := [x]) hs
    case inl => exact h.closed hx hs'
    case inr =>
      cases he
      have hb := h.revoked (List.singleton_sublist.mp hs') hx
      simp [(hr.left rfl).left] at hb

-- The invariant of a run.
structure Kept (t : List RevocationObservation) (s : RevocationRuntime) : Prop where
  bridge  : s.bridge.Sound t
  gate    : ∀ {c point}, s.gate = some (c, point) → point.Holds t s.bridge c.i c.call
  waiting : ∀ {c}, c ∈ s.waiting → c.call = .revokeConfirmed → s.bridge.revoked = true
  traced  : Traced t s.bridge

theorem RevocationCall.first_holds (h : call = .revokeConfirmed → b.revoked = true) :
    call.first.Holds t b i call := by
  cases call
  case recordCreatedSession => rfl
  case revokeConfirmed      => exact ⟨rfl, h rfl⟩
  case submitAnswer sdp     => exact ⟨sdp, rfl⟩

theorem Move.advances (k : Kept t s) (m : s.Move s' o) : s.bridge.Advances s'.bridge := by
  cases m
  case revoked        => exact ⟨fun _ => rfl, id, id⟩
  case advanced hg he => exact (execute_executed k.bridge (k.gate hg) he).advances
  case returned hg he => exact (execute_executed k.bridge (k.gate hg) he).advances
  all_goals exact .refl _

theorem Kept.waiting_enter (k : Kept t s) (hc : call = .revokeConfirmed → s.bridge.revoked = true)
    {c : GateCall} (h : c ∈ (s.enter call).waiting) (hr : c.call = .revokeConfirmed) :
    s.bridge.revoked = true := by
  rcases List.mem_append.mp h with h | h
  case inl => exact k.waiting h hr
  case inr =>
    obtain rfl := List.mem_singleton.mp h
    exact hc hr

theorem Move.kept (k : Kept t s) (m : s.Move s' o) : Kept (t ++ o) s' := by
  cases m
  case invalid =>
    exact ⟨k.bridge.append, fun hg => (k.gate hg).mono id rfl rfl, k.waiting, k.traced.returned nofun⟩
  case entered hc =>
    rw [List.append_nil]
    exact ⟨k.bridge, k.gate, k.waiting_enter fun h => absurd h hc, k.traced⟩
  case revoked =>
    refine ⟨k.bridge.revoke.append, fun hg => (k.gate hg).mono (fun _ => rfl) rfl rfl, fun _ _ => rfl, fun _ _ => rfl, ?_⟩
    intro x i sdp hx hs
    exact k.traced.closed hx (Machine.sublist_of_notMem (l := [x]) hs (by simp))
  case acquired k' c hk =>
    rw [List.append_nil]
    refine ⟨k.bridge, fun hg => ?_, fun hc => k.waiting (List.mem_of_mem_eraseIdx hc), k.traced⟩
    cases hg
    exact RevocationCall.first_holds (k.waiting (List.mem_of_getElem? hk))
  case advanced c point reply bridge point' hg he =>
    have hx := execute_executed k.bridge (k.gate hg) he
    have hq := execute_quiet s.bridge c.i reply point
    rw [he] at hq
    refine ⟨hx.sound, fun hg => ?_, fun hc hr => hx.advances.revoked (k.waiting hc hr),
      k.traced.quiet hx.advances.revoked hq⟩
    cases hg
    exact hx.holds
  case returned c point reply bridge result o hg he =>
    have hx := execute_executed k.bridge (k.gate hg) he
    have hq := execute_quiet s.bridge c.i reply point
    rw [he] at hq
    rw [← List.append_assoc]
    exact ⟨hx.sound.append, nofun, fun hc hr => hx.advances.revoked (k.waiting hc hr),
      (k.traced.quiet hx.advances.revoked hq).returned hx.holds⟩

theorem run_kept (r : machine.Run t s) : Kept t s := by
  apply r.invariant
  case hi =>
    rintro s rfl
    exact ⟨⟨nofun, nofun⟩, nofun, nofun, nofun, fun _ => by simp⟩
  case h => exact fun k h => (step_move h).kept k

-- What the bridge promises its callers.
structure Bridged (t : List RevocationObservation) (s : RevocationRuntime) : Prop where
  revoked   : ∀ {t' s'}, machine.Steps s t' s' → s.bridge.revoked = true → s'.bridge.revoked = true
  conflict  : ∀ {t' s'}, machine.Steps s t' s' → s.bridge.identityConflict = true →
    s'.bridge.identityConflict = true ∧ s'.bridge.confirmed = false ∧ s'.bridge.revoked = true
  confirmed : s.bridge.confirmed = true → ∃ id, s.bridge.Confirms t id
  recorded  : ∀ {e s' o i id}, machine.step s e = some (s', o) →
    .returned i (.recordCreatedSession id) (.ok ()) ∈ o →
    s.bridge.revoked = false ∧ s'.bridge.createdSessionId = some id
  answered  : ∀ {e s' o i sdp}, machine.step s e = some (s', o) →
    .returned i (.submitAnswer sdp) (.ok ()) ∈ o →
    [.admitted i, .answered i true].Sublist t ∧ s.bridge.revoked = false ∧ s'.bridge.revoked = false
  closed    : ∀ {x i sdp}, x.revokes = true → ¬[x, .returned i (.submitAnswer sdp) (.ok ())].Sublist t

theorem Kept.advances (k : Kept t s) {t' : List RevocationObservation} (e : machine.Steps s t' s') :
    s.bridge.Advances s'.bridge := by
  induction e generalizing t
  case refl          => exact .refl _
  case trans hs _ hi => exact .trans ((step_move hs).advances k) (hi ((step_move hs).kept k))

theorem Kept.steps (k : Kept t s) {t' : List RevocationObservation} (e : machine.Steps s t' s') :
    Kept (t ++ t') s' :=
  e.preserves (fun k h => (step_move h).kept k) k

-- A successful call returns from its last check, and that has found it not to be revoked.
theorem Kept.returned (k : Kept t s) (h : machine.step s e = some (s', o))
    (hr : .returned i call (.ok ()) ∈ o) :
    call.Returns t s'.bridge i (.ok ()) ∧ (s'.bridge.revoked = false → s.bridge.revoked = false) := by
  have m := step_move h
  have ha := m.advances k
  refine ⟨?_, fun hb => Bool.eq_false_iff.mpr fun hb' => by simp [ha.revoked hb'] at hb⟩
  cases m
  case advanced c point reply bridge point' hg he =>
    have hq := execute_quiet s.bridge c.i reply point
    rw [he] at hq
    exact absurd rfl ((hq _ hr).right _ _ _)
  case returned hg he =>
    have hx := (execute_executed k.bridge (k.gate hg) he).holds
    obtain rfl := execute_returns he
    cases List.mem_singleton.mp hr
    simpa [GateProgress.Holds] using hx
  all_goals simp at hr

theorem run_bridged (r : machine.Run t s) : Bridged t s := by
  have k := run_kept r
  refine ⟨fun e => (k.advances e).revoked, fun e hc => ?conflict, fun hc => (k.bridge.confirmed hc).right,
    fun h hr => ?recorded, fun h hr => ?answered, k.traced.closed⟩
  case conflict =>
    have hc := (k.advances e).conflict hc
    exact ⟨hc, (k.steps e).bridge.conflict hc⟩
  case recorded =>
    have ⟨hx, hb⟩ := k.returned h hr
    have ⟨hr, hi⟩ := hx rfl
    exact ⟨hb hr, hi⟩
  case answered =>
    have ⟨hx, hb⟩ := k.returned h hr
    have ⟨hr, hs⟩ := hx.left rfl
    exact ⟨hs, hb hr, hr⟩

-- A session is created and answered before the owner stops it. A second CREATE then contradicts it.
theorem run_bridged_conflict : ∃ t s, machine.Run t s ∧ s.bridge.identityConflict = true ∧ Bridged t s :=
  have r := Machine.Run.of_replay (m := machine) ⟨.new, 0, [], none⟩
    ([.call (.recordCreatedSession "sender"), .call (.submitAnswer "sdp"), .acquire 0] ++
      List.replicate 3 (.resume ⟨none, true⟩) ++ [.acquire 0] ++ List.replicate 3 (.resume ⟨none, true⟩) ++
      [.call .revokeConfirmed, .call (.recordCreatedSession "another"), .acquire 0] ++
      List.replicate 5 (.resume ⟨some "sender", true⟩) ++ [.acquire 0] ++
      List.replicate 2 (.resume ⟨none, true⟩))
    rfl rfl
  ⟨_, _, r, rfl, run_bridged r⟩

end RevocationRuntime
