import PersonaRuntime.Runtime.Theorems.TurnState

namespace OutputEvidence

variable {e e' : OutputEvidence}

-- The checkpoint that cancelling the evidence retains. Uncertain delivery has none.
def reached (e : OutputEvidence) : Option OutputCheckpoint :=
  match e.state with
  | .pending | .cancelled .pending                   => some .pending
  | .generated | .cancelled .generated               => some .generated
  | .deliveryUncertain | .cancelledDeliveryUncertain => none
  | .sent | .cancelled .sent                         => some .sent
  | .played | .cancelled .played                     => some .played

theorem cancelled_reached : e.cancelled.reached = e.reached := by
  have ⟨state⟩ := e
  cases state
  case cancelled c => cases c <;> rfl
  all_goals rfl

theorem cancelled_eligibleAsSpoken : e.cancelled.eligibleAsSpoken = e.eligibleAsSpoken := by
  have ⟨state⟩ := e
  cases state
  case cancelled c => cases c <;> rfl
  all_goals rfl

theorem markCancelled_cancelled : (markCancelled.run e).state.cancelled = e.cancelled := by
  have ⟨state⟩ := e
  cases state <;> rfl

-- Cancelling before a receipt or after it comes to the same.
structure Commutes (x : EStateM OutputTransitionError OutputEvidence Unit) : Prop where
  isOk  : ∀ {e : OutputEvidence}, (x.run e.cancelled).isOk = (x.run e).isOk
  state : ∀ {e : OutputEvidence}, (x.run e.cancelled).state = (x.run e).state.cancelled

theorem markDeliveryUncertain_commutes : Commutes markDeliveryUncertain := by
  constructor
  all_goals
    rintro ⟨state⟩
    cases state
    case cancelled c => cases c <;> rfl
    all_goals rfl

theorem reconcileSent_commutes : Commutes reconcileSent := by
  constructor
  all_goals
    rintro ⟨state⟩
    cases state
    case cancelled c => cases c <;> rfl
    all_goals rfl

theorem reconcilePlayed_commutes : Commutes reconcilePlayed := by
  constructor
  all_goals
    rintro ⟨state⟩
    cases state
    case cancelled c => cases c <;> rfl
    all_goals rfl

end OutputEvidence

inductive Cancellation
  | interrupt
  | freeze (next : TurnFreeze)
deriving DecidableEq, Repr

def Cancellation.call : Cancellation → TurnMutableState.Update Unit
  | interrupt   => TurnMutableState.interrupt
  | freeze next => TurnMutableState.transitionAndFreeze next.state

def OutputSegmentEvidence.cancelled (g : OutputSegmentEvidence) : OutputSegmentEvidence :=
  { g with evidence := g.evidence.cancelled }

namespace TurnMutableState

variable {s s' : TurnMutableState} {x : EStateM OutputTransitionError OutputEvidence Unit} {id : Nat}

-- Receipts as they arrive, each with the answer that it got.
def receive (s : TurnMutableState) :
    List (Receipt × Nat) → TurnMutableState × List (Except Rt0ReasonCode Unit)
  | []            => (s, [])
  | (r, id) :: rs =>
    let result := (r.reconcile id).run s
    let (s', answers) := receive result.state rs
    (s', result.toExcept :: answers)

theorem receive_append (rs rs' : List (Receipt × Nat)) :
    s.receive (rs ++ rs') =
      (((s.receive rs).1.receive rs').1, (s.receive rs).2 ++ ((s.receive rs).1.receive rs').2) := by
  induction rs generalizing s
  case nil          => rfl
  case cons r rs hi => simp [receive, hi]

-- Two turns whose segments would be the same if all of them were cancelled.
def Alike (s s' : TurnMutableState) : Prop :=
  s.cancelAll.outputSegments = s'.cancelAll.outputSegments

theorem writeSegment_cancelled {e : OutputEvidence} {gs : List OutputSegmentEvidence} :
    writeSegment id e.cancelled (gs.map (·.cancelled)) =
      (writeSegment id e gs).map (·.cancelled) := by
  induction gs
  case nil => rfl
  case cons g gs hi =>
    by_cases hg : g.id = id
    case pos => simp [writeSegment, OutputSegmentEvidence.cancelled, hg]
    case neg => simpa [writeSegment, OutputSegmentEvidence.cancelled, hg] using hi

theorem reconcile_run :
    (reconcile x id).run s =
      match s.outputSegments.find? (·.id == id) with
      | none   => .error .invalidStateTransition s
      | some g =>
        let s' := { s with outputSegments := writeSegment id (x.run g.evidence).state s.outputSegments }
        if (x.run g.evidence).isOk then .ok () s' else .error .invalidStateTransition s' := by
  cases hf : s.outputSegments.find? (·.id == id)
  case none => simp [reconcile, hf]
  case some g => cases hx : x.run g.evidence <;> simp [reconcile, hf, hx, EStateM.Result.toExcept]

theorem reconcile_alike (hx : OutputEvidence.Commutes x) (h : s.Alike s') :
    ((reconcile x id).run s).toExcept = ((reconcile x id).run s').toExcept ∧
    ((reconcile x id).run s).state.Alike ((reconcile x id).run s').state := by
  have hf : (s.outputSegments.find? (·.id == id)).map (·.cancelled) =
      (s'.outputSegments.find? (·.id == id)).map (·.cancelled) := by
    have hc : ∀ gs : List OutputSegmentEvidence, (gs.find? (·.id == id)).map (·.cancelled) =
        (gs.map (·.cancelled)).find? (·.id == id) := fun gs => by
      rw [List.find?_map]
      rfl
    rw [hc, hc]
    exact congrArg _ h
  simp only [reconcile_run]
  cases hs : s.outputSegments.find? (·.id == id) <;>
    cases hs' : s'.outputSegments.find? (·.id == id) <;>
    simp only [hs, hs', Option.map_some, Option.map_none, Option.some.injEq, reduceCtorEq] at hf
  case none.none => exact ⟨rfl, h⟩
  case some.some g g' =>
    have he : g.evidence.cancelled = g'.evidence.cancelled := congrArg (·.evidence) hf
    have hok : (x.run g.evidence).isOk = (x.run g'.evidence).isOk := by
      rw [← hx.isOk, he, hx.isOk]
    have hst : (x.run g.evidence).state.cancelled = (x.run g'.evidence).state.cancelled := by
      rw [← hx.state, he, hx.state]
    have hw : (writeSegment id (x.run g.evidence).state s.outputSegments).map (·.cancelled) =
        (writeSegment id (x.run g'.evidence).state s'.outputSegments).map (·.cancelled) := by
      rw [← writeSegment_cancelled, ← writeSegment_cancelled, hst]
      exact congrArg _ h
    cases hr : (x.run g'.evidence).isOk <;> rw [hr] at hok
    all_goals
      simp only [hok, hr, Bool.false_eq_true, if_true, if_false]
      exact ⟨rfl, hw⟩

theorem receipt_alike (r : Receipt) (id : Nat) (h : s.Alike s') :
    ((r.reconcile id).run s).toExcept = ((r.reconcile id).run s').toExcept ∧
    ((r.reconcile id).run s).state.Alike ((r.reconcile id).run s').state := by
  cases r
  case deliveryUncertain => exact reconcile_alike OutputEvidence.markDeliveryUncertain_commutes h
  case sent              => exact reconcile_alike OutputEvidence.reconcileSent_commutes h
  case played            => exact reconcile_alike OutputEvidence.reconcilePlayed_commutes h

theorem Alike.receive (h : s.Alike s') (rs : List (Receipt × Nat)) :
    (s.receive rs).2 = (s'.receive rs).2 ∧ (s.receive rs).1.Alike (s'.receive rs).1 := by
  induction rs generalizing s s'
  case nil => exact ⟨rfl, h⟩
  case cons r rs hi =>
    have ⟨ha, hs⟩ := receipt_alike r.1 r.2 h
    have ⟨ha', hs'⟩ := hi hs
    exact ⟨by simp [TurnMutableState.receive, ha, ha'], hs'⟩

theorem onSegments_alike {y : EStateM Rt0ReasonCode OutputEvidence Unit}
    (h : ∀ e : OutputEvidence, (y.run e).state.cancelled = e.cancelled) :
    ((onSegments y).run s).state.Alike s := by
  have hl := EStateM.forEach_state_map (f := OutputSegmentEvidence.cancelled)
    (x := .zoom OutputSegmentEvidence.evidence (fun g evidence => { g with evidence }) id y)
    (fun g => by
      have hg := h g.evidence
      cases hy : y.run g.evidence <;> rw [hy] at hg
      all_goals simpa [EStateM.zoom_run, hy, OutputSegmentEvidence.cancelled] using hg)
    s.outputSegments
  simp only [onSegments, EStateM.zoom_run]
  split <;> rename_i hx <;> rw [hx] at hl <;> exact hl

-- Both cancellations leave the state of the turn and then cancel what they find, so that one that
-- stops in between has still only cancelled.
theorem transition_onSegments_alike {next : TurnState} {y : EStateM Rt0ReasonCode OutputEvidence Unit}
    (h : ∀ e : OutputEvidence, (y.run e).state.cancelled = e.cancelled) :
    ((do transition next; onSegments y : Update Unit).run s).state.Alike s := by
  rw [EStateM.run_bind, transition_run]
  cases Turn.valid s.state next
  case false => rfl
  case true  => exact onSegments_alike (s := s.enter next) h

theorem adaptExcept_markCancelled {f : OutputTransitionError → Rt0ReasonCode} (e : OutputEvidence) :
    ((EStateM.adaptExcept f OutputEvidence.markCancelled).run e).state.cancelled = e.cancelled := by
  have he := OutputEvidence.markCancelled_cancelled (e := e)
  cases hm : OutputEvidence.markCancelled.run e <;> rw [hm] at he
  all_goals simpa [EStateM.run_adaptExcept, hm] using he

theorem cancellation_alike (c : Cancellation) : (c.call.run s).state.Alike s := by
  cases c
  case interrupt =>
    simp only [Cancellation.call, interrupt, EStateM.run_bind, EStateM.run_get]
    split
    case isTrue  => rfl
    case isFalse => exact transition_onSegments_alike adaptExcept_markCancelled
  case freeze next =>
    refine transition_onSegments_alike fun e => ?_
    cases hc : e.state.isCancelled
    case true  => simp [hc]
    case false => simpa [hc] using adaptExcept_markCancelled e

theorem receive_wellFormed (w : s.WellFormed) (rs : List (Receipt × Nat)) :
    (s.receive rs).1.WellFormed ∧ (s.receive rs).1.state = s.state := by
  induction rs generalizing s
  case nil => exact ⟨w, rfl⟩
  case cons r rs hi =>
    obtain ⟨gs, hg, hs⟩ := receipt_received r.1 r.2 s
    have w' := (Change.receipt hg).preserves_wellFormed w
    have ⟨hw, hst⟩ := hi (hs ▸ w')
    refine ⟨hw, hst.trans ?_⟩
    rw [hs]
    rfl

-- One segment in two runs, as far as it was delivered.
structure SameDelivery (g g' : OutputSegmentEvidence) : Prop where
  id               : g.id = g'.id
  reached          : g.evidence.reached = g'.evidence.reached
  eligibleAsSpoken : g.evidence.eligibleAsSpoken = g'.evidence.eligibleAsSpoken

theorem Alike.sameDelivery (h : s.Alike s') :
    s.outputSegments.Forall₂ SameDelivery s'.outputSegments := by
  have hm : (s.outputSegments.map (·.cancelled)).Forall₂ (· = ·) (s'.outputSegments.map (·.cancelled)) := by
    rw [List.forall₂_eq_eq_eq]
    exact h
  refine (List.forall₂_map_right_iff.mp (List.forall₂_map_left_iff.mp hm)).imp fun g g' hg => ?_
  have he : g.evidence.cancelled = g'.evidence.cancelled := congrArg (·.evidence) hg
  refine ⟨congrArg (·.id) hg, ?reached, ?eligible⟩
  case reached  => rw [← OutputEvidence.cancelled_reached, he, OutputEvidence.cancelled_reached]
  case eligible =>
    rw [← OutputEvidence.cancelled_eligibleAsSpoken, he, OutputEvidence.cancelled_eligibleAsSpoken]

-- Two runs on the same receipts, of which one is cancelled after `rs`. A cancellation of an
-- outputting turn is accepted at every point.
theorem receive_cancelled (s : TurnMutableState) (rs rs' : List (Receipt × Nat)) (c : Cancellation) :
    (s.receive rs).2 ++ ((c.call.run (s.receive rs).1).state.receive rs').2 =
      (s.receive (rs ++ rs')).2 ∧
    ((c.call.run (s.receive rs).1).state.receive rs').1.outputSegments.Forall₂ SameDelivery
      (s.receive (rs ++ rs')).1.outputSegments ∧
    (s.WellFormed → s.state = .outputting → (c.call.run (s.receive rs).1).isOk = true) := by
  have h := (cancellation_alike (s := (s.receive rs).1) c).receive rs'
  rw [receive_append]
  refine ⟨by rw [h.left], h.right.sameDelivery, fun w hs => ?_⟩
  have ⟨w', hs'⟩ := receive_wellFormed w rs
  have hi : (s.receive rs).1.state.interruptible = true := by rw [hs', hs]; rfl
  cases c
  case interrupt   => simp [Cancellation.call, w'.interrupt_run, hi]
  case freeze next => simp [Cancellation.call, w'.transitionAndFreeze_run, hi]

-- Three segments of which one is played before the turn is interrupted, one is sent and played late
-- and one is uncertain before and confirmed after.
theorem receive_cancelled_interrupted :
    let id : CanonicalId := ⟨"turn", by decide, by decide⟩
    let s : TurnMutableState := { TurnMutableState.new ⟨id, id, .outputting⟩ 1 with
      outputSegments := [⟨1, ⟨.generated⟩⟩, ⟨2, ⟨.generated⟩⟩, ⟨3, ⟨.generated⟩⟩], nextSegmentId := 4 }
    let rs := [(.sent, 1), (.played, 1), (.deliveryUncertain, 3), (.played, 2)]
    let rs' := [(.sent, 2), (.played, 2), (.sent, 3), (.sent, 4)]
    s.WellFormed ∧ (Cancellation.interrupt.call.run (s.receive rs).1).isOk = true ∧
    ((Cancellation.interrupt.call.run (s.receive rs).1).state.receive rs').1.outputSegments.Forall₂
      SameDelivery (s.receive (rs ++ rs')).1.outputSegments := by
  intro id s rs rs'
  have w : s.WellFormed := ⟨by simp [s, OutputDeliveryState.isCancelled]; decide, by decide, by decide⟩
  obtain ⟨_, hd, hok⟩ := receive_cancelled s rs rs' .interrupt
  exact ⟨w, hok w rfl, hd⟩

end TurnMutableState
