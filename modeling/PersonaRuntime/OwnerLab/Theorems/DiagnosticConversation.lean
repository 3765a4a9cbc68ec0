import PersonaRuntime.OwnerLab.DiagnosticConversation
import PersonaRuntime.OwnerLab.Theorems.RemoteMediaRevocation
import PersonaRuntime.OwnerLab.Theorems.VisitorSessions

-- Whether the holder of the gate can no longer send an answer to the worker.
def GatePoint.closed (revoked requested : Bool) : GatePoint → Bool
  | answerRevoked => revoked
  | answer        => requested
  | _             => true

def AnswerPoint.denied : AnswerPoint → Bool
  | dropPermit _ result | returning result => !result.isOk
  | _                                      => true

namespace Rt1RemoteMediaRevocation

variable {b b' : Rt1RemoteMediaRevocation} {i : Nat} {reply : WorkerReply} {point point' : GatePoint}
variable {o : List RevocationObservation}

theorem execute_revoked (h : b.revoked = true) : (b.execute i reply point).1.revoked = true := by
  cases point <;> simp only [execute]
  case cancel point =>
    cases point <;> simp only [cancelLocked] <;> split <;> exact h
  all_goals
    split
    all_goals first | exact h | rfl

-- Only the check of the flag leads to an answer.
theorem execute_closed (h : b.execute i reply point = (b', .next point', o))
    (hp : point = .answerRevoked → b.revoked = true) (revoked requested : Bool) :
    point'.closed revoked requested = true := by
  cases point <;> simp only [execute] at h
  case answerRevoked => simp [hp rfl] at h
  case cancel point =>
    cases point <;> simp only [cancelLocked] at h <;> split at h <;> cases h <;> rfl
  all_goals split at h <;> cases h <;> rfl

end Rt1RemoteMediaRevocation

namespace AnswerPoint

variable {p : AnswerPoint}

theorem denied_hear {e : ThreadEvent VisitorCall VisitorEnvironment} {o : List VisitorObservation}
    (h : p.denied = true) : (p.hear e o).denied = true := by
  unfold hear
  split
  case h_5 => exact h
  all_goals
    split
    · rfl
    · exact h

theorem denied_accept {o : List RevocationObservation} (h : p.denied = true) :
    (p.accept o).denied = true := by
  unfold accept
  split
  case h_1 =>
    split
    · rfl
    · exact h
  case h_2 => exact h

end AnswerPoint

namespace RevocationRuntime

-- Every answer at the gate was sent before, and those that wait for it will be refused.
structure Shut (s : RevocationRuntime) (requested : Bool) : Prop where
  waiting : ∀ {c}, c ∈ s.waiting → c.call.submits = true → s.bridge.revoked = true
  gate    : ∀ {c point}, s.gate = some (c, point) → point.closed s.bridge.revoked requested = true

variable {s s' : RevocationRuntime} {requested : Bool} {o : List RevocationObservation}

theorem Shut.enter {c : RevocationCall} (q : s.Shut requested) (hc : c.submits = false) :
    (s.enter c).Shut requested where
  waiting hm hs := by
    obtain hm | rfl : _ ∨ _ = GateCall.mk s.calls c := by simpa [RevocationRuntime.enter] using hm
    · exact q.waiting hm hs
    · simp [hc] at hs
  gate := q.gate

theorem Shut.revoke (q : s.Shut requested) : Shut { s with bridge.revoked := true } requested where
  waiting _ _        := rfl
  gate {c point} hg := by
    have h := q.gate hg
    cases point <;> first | exact h | rfl

theorem Shut.call {c : RevocationCall} (q : s.Shut requested) (hc : c.submits = false)
    (h : machine.step s (.call c) = some (s', o)) : s'.Shut requested := by
  cases c <;> simp only [machine] at h
  case recordCreatedSession =>
    split at h <;> cases h
    case isTrue  => exact ⟨q.waiting, q.gate⟩
    case isFalse => exact q.enter rfl
  case revokeConfirmed =>
    cases h
    exact q.revoke.enter rfl
  case submitAnswer => cases hc

theorem Shut.acquire {k : Nat} (q : s.Shut requested) (h : machine.step s (.acquire k) = some (s', o)) :
    s'.Shut requested := by
  simp only [machine] at h
  split at h <;> cases h
  case h_1 c _ hk =>
    refine ⟨fun hm => q.waiting (List.mem_of_mem_eraseIdx hm), fun hg => ?_⟩
    obtain ⟨rfl, rfl⟩ := Prod.mk.inj (Option.some.inj hg)
    cases hc : c.call <;> simp only [RevocationCall.first]
    case submitAnswer => exact q.waiting (List.mem_of_getElem? hk) (by simp [hc, RevocationCall.submits])
    all_goals rfl

-- A step of the holder of the gate. Whatever it sent is answered with it.
theorem Shut.resume {reply : WorkerReply} (q : s.Shut requested)
    (h : machine.step s (.resume reply) = some (s', o)) : s'.Shut false := by
  simp only [machine] at h
  split at h
  case h_1 => cases h
  case h_2 c point hg =>
    have hw : ∀ {c'}, c' ∈ s.waiting → c'.call.submits = true →
        (s.bridge.execute c.i reply point).1.revoked = true :=
      fun hm hs => Rt1RemoteMediaRevocation.execute_revoked (q.waiting hm hs)
    split at h <;> cases h
    case h_1 point' hp =>
      refine ⟨hw, fun hg' => ?_⟩
      obtain ⟨rfl, rfl⟩ := Prod.mk.inj (Option.some.inj hg')
      refine Rt1RemoteMediaRevocation.execute_closed (Prod.ext rfl (Prod.ext hp rfl)) (fun hr => ?_) _ _
      subst hr
      exact q.gate hg
    case h_2 => exact ⟨hw, by simp⟩

theorem Shut.request (q : s.Shut false) : s.Shut requested where
  waiting := q.waiting
  gate {c point} hg := by
    have h := q.gate hg
    cases point <;> first | exact h | cases h

end RevocationRuntime

namespace DiagnosticConversation

-- No answer is about to be sent to the worker, unless the bridge refuses it, and none is about to succeed.
def settled (s : DiagnosticConversation) : Bool :=
  s.bridge.waiting.all (fun c => !c.call.submits || s.bridge.bridge.revoked) &&
  s.bridge.gate.all (fun g => g.2.closed s.bridge.bridge.revoked s.requested) &&
  s.answers.all (·.denied)

-- A transaction that has drained the visitor is only released once the `fast_revoke` of the visitor has
-- run and no answer is on its way.
def fenced (v : VisitorAddress) (s : DiagnosticConversation) : DiagnosticEvent → Bool
  | .manager e => !releases v s e || s.cancelled && s.settled
  | _          => true

structure Quiet (s : DiagnosticConversation) : Prop where
  cancelled : s.cancelled = true
  bridge    : s.bridge.Shut s.requested
  answers   : ∀ {p}, p ∈ s.answers → p.denied = true

variable {sha256 : Digest} {id : String} {v : VisitorAddress} {s s' : DiagnosticConversation}
variable {t o : List DiagnosticObservation}

theorem quiet_iff : (s.cancelled && s.settled) = true ↔ s.Quiet := by
  simp only [settled, Bool.and_eq_true, List.all_eq_true, Option.all_eq_true, Bool.or_eq_true,
    Bool.not_eq_true']
  constructor
  case mp =>
    intro ⟨hc, ⟨hw, hg⟩, ha⟩
    refine ⟨hc, ⟨fun hm hs => ?_, fun h => hg _ h⟩, fun h => ha _ h⟩
    exact (hw _ hm).resolve_left (by simp [hs])
  case mpr =>
    intro q
    refine ⟨q.cancelled, ⟨fun c hm => ?_, fun g h => q.bridge.gate h⟩, fun p h => q.answers h⟩
    cases hs : c.call.submits
    case false => exact .inl rfl
    case true  => exact .inr (q.bridge.waiting hm hs)

namespace Quiet

theorem setAnswer {k : Nat} {p : AnswerPoint} (q : s.Quiet) (hp : p.denied = true) :
    (s.setAnswer k p).Quiet where
  cancelled := q.cancelled
  bridge    := q.bridge
  answers h := (List.mem_or_eq_of_mem_set h).elim q.answers (· ▸ hp)

theorem enter {c : VisitorCall} {env : VisitorEnvironment} (q : s.Quiet)
    (h : s.enter sha256 c env = some s') : s'.Quiet := by
  obtain ⟨_, _, rfl⟩ := Option.map_eq_some_iff.mp h
  exact ⟨q.cancelled, q.bridge, q.answers⟩

theorem callbacks {e : ThreadEvent VisitorCall VisitorEnvironment} {o : List VisitorObservation}
    (q : s.Quiet) : (callbacks v s e o).Quiet := by
  unfold DiagnosticConversation.callbacks
  split
  case h_3 => exact q
  all_goals
    split
    · exact ⟨rfl, q.bridge, q.answers⟩
    · exact q

theorem manage {e : ThreadEvent VisitorCall VisitorEnvironment} (q : s.Quiet)
    (h : s.manage sha256 v e = some (s', o)) : s'.Quiet ∧ .requested ∉ o ∧ .returned (.ok ()) ∉ o := by
  simp only [DiagnosticConversation.manage] at h
  split at h
  case isTrue => cases h
  case isFalse =>
    obtain ⟨⟨m, om⟩, -, h⟩ := Option.map_eq_some_iff.mp h
    cases h
    refine ⟨callbacks ⟨q.cancelled, q.bridge, fun hm => ?_⟩, ?_, ?_⟩
    · obtain ⟨p, hp, rfl⟩ := List.mem_map.mp hm
      exact AnswerPoint.denied_hear (q.answers hp)
    all_goals split <;> simp

theorem call {e : RevocationEvent} (hc : s.cancelled = true) (ha : ∀ {p}, p ∈ s.answers → p.denied = true)
    (hb : ∀ {b ob}, RevocationRuntime.machine.step s.bridge e = some (b, ob) → b.Shut s.requested)
    (h : s.call e = some (s', o)) : s'.Quiet ∧ .requested ∉ o ∧ .returned (.ok ()) ∉ o := by
  obtain ⟨⟨b, ob⟩, hs, h⟩ := Option.map_eq_some_iff.mp h
  cases h
  refine ⟨⟨hc, hb hs, fun hm => ?_⟩, by simp, by simp⟩
  obtain ⟨p, hp, rfl⟩ := List.mem_map.mp hm
  exact AnswerPoint.denied_accept (ha hp)

-- A visitor that is cut off only fails.
theorem submitAnswer {k : Nat} {env : VisitorEnvironment} {p : AnswerPoint} (q : s.Quiet)
    (hp : p.denied = true) (h : s.submitAnswer sha256 id k env p = some (s', o)) :
    s'.Quiet ∧ .requested ∉ o ∧ .returned (.ok ()) ∉ o := by
  cases p <;> simp only [DiagnosticConversation.submitAnswer, q.cancelled, if_true] at h
  case loadCancelled w sdp =>
    cases h
    exact ⟨q.setAnswer rfl, by simp, by simp⟩
  case authorize w result =>
    obtain ⟨s₁, h₁, h⟩ := Option.map_eq_some_iff.mp h
    cases h
    exact ⟨(q.enter h₁).setAnswer rfl, by simp, by simp⟩
  case reloadCancelled w result =>
    cases h
    exact ⟨q.setAnswer rfl, by simp, by simp⟩
  case dropPermit w result =>
    obtain ⟨s₁, h₁, h⟩ := Option.map_eq_some_iff.mp h
    cases h
    exact ⟨(q.enter h₁).setAnswer hp, by simp, by simp⟩
  case returning result =>
    cases h
    refine ⟨q.setAnswer rfl, by simp, fun hm => ?_⟩
    obtain rfl : .ok () = result := by simpa using hm
    cases hp
  all_goals cases h

theorem step {e : DiagnosticEvent} (q : s.Quiet) (h : (machine sha256 id v).step s e = some (s', o)) :
    s'.Quiet ∧ .requested ∉ o ∧ .returned (.ok ()) ∉ o := by
  cases e <;> simp only [machine] at h
  case manager e => exact q.manage h
  case bridge e =>
    cases e <;> simp only at h
    case call c =>
      cases hc : c.submits <;> simp only [hc] at h
      case false => exact call q.cancelled q.answers (q.bridge.call hc) h
      case true  => cases h
    case acquire k => exact call q.cancelled q.answers q.bridge.acquire h
    case resume reply =>
      split at h
      case h_1 =>
        split at h
        case isTrue  =>
          exact call (s := { s with requested := false }) q.cancelled q.answers (fun hs => q.bridge.resume hs) h
        case isFalse => cases h
      case h_2 => exact call q.cancelled q.answers (fun hs => (q.bridge.resume hs).request) h
  case submitAnswer sdp env =>
    obtain ⟨s₁, h₁, h⟩ := Option.map_eq_some_iff.mp h
    cases h
    refine ⟨⟨(q.enter h₁).cancelled, (q.enter h₁).bridge, fun hm => ?_⟩, by simp, by simp⟩
    obtain hm | rfl := by simpa using hm
    · exact q.answers hm
    · rfl
  case resume k env =>
    obtain ⟨p, hp, h⟩ := Option.bind_eq_some_iff.mp h
    exact q.submitAnswer (q.answers (List.mem_of_getElem? hp)) h
  case request =>
    split at h
    case h_1 c hg =>
      have hr : s.requested = true := q.bridge.gate hg
      simp [hr] at h
    case h_2 => cases h
  case stop =>
    split at h
    case h_1 thread _ =>
      exact call (s := { s with stop := some (.revoking thread s.bridge.calls) }) q.cancelled q.answers
        (q.bridge.call rfl) h
    case h_2 => cases h

end Quiet

-- What the worker and the callers see of a visitor that the owner has cut off.
structure Silent (t : List DiagnosticObservation) : Prop where
  requested : ∀ {t₁ t₂}, t = t₁ ++ .released :: t₂ → .requested ∉ t₂
  returned  : ∀ {t₁ t₂}, t = t₁ ++ .released :: t₂ → .returned (.ok ()) ∉ t₂

theorem call_observes {e : RevocationEvent} (h : s.call e = some (s', o)) : o = [] := by
  obtain ⟨_, -, h⟩ := Option.map_eq_some_iff.mp h
  cases h
  rfl

theorem submitAnswer_observes {k : Nat} {env : VisitorEnvironment} {p : AnswerPoint}
    (h : s.submitAnswer sha256 id k env p = some (s', o)) : o = [] ∨ ∃ result, o = [.returned result] := by
  cases p <;> simp only [submitAnswer] at h
  case loadCancelled => split at h <;> cases h <;> exact .inl rfl
  case authorize | dropPermit =>
    obtain ⟨_, -, h⟩ := Option.map_eq_some_iff.mp h
    cases h
    exact .inl rfl
  case reloadCancelled =>
    cases h
    exact .inl rfl
  case returning result =>
    cases h
    exact .inr ⟨result, rfl⟩
  all_goals cases h

-- A step shows one thing at most, and only a step of the manager releases a transaction.
theorem step_observes {e : DiagnosticEvent} (h : (machine sha256 id v).step s e = some (s', o)) :
    o = [] ∨ ∃ x, o = [x] ∧ (x = .released → ∃ e', e = .manager e' ∧ releases v s e' = true) := by
  cases e <;> simp only [machine] at h
  case manager e =>
    simp only [manage] at h
    split at h
    case isTrue => cases h
    case isFalse =>
      obtain ⟨_, -, h⟩ := Option.map_eq_some_iff.mp h
      cases h
      split
      case isTrue hr  => exact .inr ⟨_, rfl, fun _ => ⟨e, rfl, hr⟩⟩
      case isFalse hr => exact .inl rfl
  case bridge e =>
    cases e <;> simp only at h
    case call c =>
      split at h
      · cases h
      · exact .inl (call_observes h)
    case acquire k => exact .inl (call_observes h)
    case resume reply =>
      split at h
      case h_1 =>
        split at h
        · exact .inl (call_observes h)
        · cases h
      case h_2 => exact .inl (call_observes h)
  case submitAnswer sdp env =>
    obtain ⟨_, -, h⟩ := Option.map_eq_some_iff.mp h
    cases h
    exact .inl rfl
  case resume k env =>
    obtain ⟨p, -, h⟩ := Option.bind_eq_some_iff.mp h
    exact (submitAnswer_observes h).imp_right fun ⟨result, ho⟩ => ⟨_, ho, by simp⟩
  case request =>
    split at h
    case h_1 =>
      split at h <;> cases h
      exact .inr ⟨_, rfl, by simp⟩
    case h_2 => cases h
  case stop =>
    split at h
    case h_1 => exact .inl (call_observes h)
    case h_2 => cases h

structure CutOff (t : List DiagnosticObservation) (s : DiagnosticConversation) : Prop where
  quiet  : .released ∈ t → s.Quiet
  silent : Silent t

theorem CutOff.step {e : DiagnosticEvent} (c : CutOff t s)
    (h : ((machine sha256 id v).guarded (fenced v)).step s e = some (s', o)) : CutOff (t ++ o) s' := by
  obtain ⟨hf, h⟩ := Machine.guarded_step_iff.mp h
  obtain rfl | ⟨x, rfl, hx⟩ := step_observes h
  case inl =>
    rw [List.append_nil]
    exact ⟨fun hm => ((c.quiet hm).step h).left, c.silent⟩
  have hs {t₁ t₂} (ht : t ++ [x] = t₁ ++ .released :: t₂) {y : DiagnosticObservation}
      (hy : y = .requested ∨ y = .returned (.ok ())) (hn : ∀ {t₂'}, t = t₁ ++ .released :: t₂' → y ∉ t₂') :
      y ∉ t₂ := by
    obtain ⟨rfl, -, -⟩ | ⟨t₂', rfl, rfl⟩ := Machine.split_snoc ht
    case inl => simp
    have ⟨_, hr, ho⟩ := (c.quiet (by simp)).step h
    rw [List.mem_append, not_or]
    obtain rfl | rfl := hy
    · exact ⟨hn rfl, hr⟩
    · exact ⟨hn rfl, ho⟩
  refine ⟨fun hm => ?quiet, fun ht => hs ht (.inl rfl) c.silent.requested,
    fun ht => hs ht (.inr rfl) c.silent.returned⟩
  case quiet =>
    obtain hm | hm := List.mem_append.mp hm
    case inl => exact ((c.quiet hm).step h).left
    case inr =>
      obtain rfl := List.mem_singleton.mp hm
      obtain ⟨e', rfl, hr⟩ := hx rfl
      -- The step releases the transaction, so that the guard has checked the state before it.
      have hq : s.Quiet := quiet_iff.mp (by simpa [fenced, hr] using hf)
      exact (hq.step h).left

theorem run_silent (r : ((machine sha256 id v).guarded (fenced v)).Run t s) : Silent t := by
  have c : CutOff t s := r.invariant (fun _ => ⟨by simp, by simp, by simp⟩) CutOff.step
  exact c.silent

open VisitorSessionManager (published available zeroToken)

-- The conversation of the first visitor of a published Persona.
def first : DiagnosticConversation where
  manager   := published
  bridge    := ⟨.new, 0, [], none⟩
  cancelled := false
  answers   := []
  stop      := none
  requested := false

def accepting : WorkerReply where
  cancelConfirmed := none
  answer          := true

-- A session is opened and an answer gets its permit.
def admitted : List DiagnosticEvent :=
  [.manager (.enter (.open zeroToken) (available []))] ++
    List.replicate 5 (.manager (.resume 0 (available []))) ++
    [.submitAnswer "answer" (available []), .manager (.resume 1 (available []))]

-- The owner pauses the publication, which drains the session.
def paused : List DiagnosticEvent :=
  [.manager (.enter (.owner (.pauseAndCollectRevocations zeroToken)) (available [])),
    .manager (.resume 2 (available [0])), .manager (.resume 2 (available [])),
    .manager (.resume 2 (available [])), .manager (.resume 2 (available []))]

-- The pause finds an answer that the worker already has. It accepts the answer, but the call fails.
theorem run_silent_in_flight : ∃ t s, ((machine zeroDigest zeroToken 0).guarded (fenced 0)).Run t s ∧
    t = [.requested, .released, .returned (.error "visitor session not found")] ∧ Silent t := by
  have ⟨t, s, r, ht⟩ := Machine.Run.exists_of_replay
    (m := (machine zeroDigest zeroToken 0).guarded (fenced 0))
    (p := (· = [.requested, .released, .returned (.error "visitor session not found")])) first
    (admitted ++ [.resume 0 (available []), .bridge (.acquire 0), .bridge (.resume accepting), .request] ++
      paused ++ [.bridge (.resume accepting), .bridge (.resume accepting), .resume 0 (available []),
        .manager (.resume 3 (available [])), .resume 0 (available []), .resume 0 (available [])])
    ⟨⟨rfl, rfl⟩, rfl, rfl, rfl, rfl, rfl⟩ (by decide +kernel)
  exact ⟨t, s, r, of_decide_eq_true ht, run_silent r⟩

-- The pause comes between the check of the flag and the bridge, which only looks at a flag of its own.
theorem not_silent_late : ¬∀ t s, (machine zeroDigest zeroToken 0).Run t s → Silent t := by
  intro h
  have ⟨t, s, r, ht⟩ := Machine.Run.exists_of_replay (m := machine zeroDigest zeroToken 0)
    (p := (· = [.released, .requested])) first
    (admitted ++ [.resume 0 (available [])] ++ paused ++
      [.bridge (.acquire 0), .bridge (.resume accepting), .request])
    ⟨⟨rfl, rfl⟩, rfl, rfl, rfl, rfl, rfl⟩ (by decide +kernel)
  obtain rfl := of_decide_eq_true ht
  exact (h _ s r).requested (List.nil_append _).symm (by simp)

end DiagnosticConversation
