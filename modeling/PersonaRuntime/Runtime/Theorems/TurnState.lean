import Mathlib.Data.List.Forall2
import PersonaRuntime.Domain.Theorems.OutputEvidence
import PersonaRuntime.Runtime.TurnState

namespace TurnMutableState


-- In the frozen states every segment is cancelled and in the others none is; the segments are
-- numbered from one without a gap.
structure WellFormed (s : TurnMutableState) : Prop where
  isCancelled : ∀ g ∈ s.outputSegments, g.evidence.state.isCancelled = s.state.frozen
  ids         : s.outputSegments.map (·.id) = List.range' 1 s.outputSegments.length
  nextId      : s.nextSegmentId = s.outputSegments.length + 1

def enter (s : TurnMutableState) (next : TurnState) : TurnMutableState :=
  { s with turn := { s.turn with state := next } }

def cancelAll (s : TurnMutableState) : TurnMutableState :=
  { s with outputSegments := s.outputSegments.map fun g => { g with evidence := g.evidence.cancelled } }

-- What a receipt for `id` may do to a segment.
structure Received (id : Nat) (g g' : OutputSegmentEvidence) : Prop where
  id_eq    : g'.id = g.id
  other    : g.id ≠ id → g' = g
  advances : g.evidence.Advances g'.evidence

-- Everything that a call can do to a turn.
inductive Change (s : TurnMutableState) : TurnMutableState → Prop
  | media (media : TurnMediaState) : Change s { s with media }
  | enter {next : TurnState} :
    (Turn.valid s.state next = true) → (next.frozen = false) → Change s (s.enter next)
  | freeze {next : TurnState} : (s.state.interruptible = true) → (next.frozen = true) →
    Change s (s.enter next).cancelAll
  | segment : (s.state = .outputting) → Change s { s with
      nextSegmentId := s.nextSegmentId + 1
      outputSegments := s.outputSegments ++ [⟨s.nextSegmentId, ⟨.generated⟩⟩] }
  | receipt {id : Nat} {gs} : (s.outputSegments.Forall₂ (Received id) gs) →
    Change s { s with outputSegments := gs }

variable {s s' : TurnMutableState} {next : TurnState} {id : Nat}

theorem new_wellFormed (turn : Turn) (epoch : Nat) : (new turn epoch).WellFormed where
  isCancelled := by simp [new]
  ids         := by simp [new]
  nextId      := by simp [new]

@[simp] theorem enter_state : (s.enter next).state = next := rfl
@[simp] theorem enter_outputSegments : (s.enter next).outputSegments = s.outputSegments := rfl
@[simp] theorem enter_nextSegmentId : (s.enter next).nextSegmentId = s.nextSegmentId := rfl
@[simp] theorem cancelAll_state : s.cancelAll.state = s.state := rfl
@[simp] theorem cancelAll_nextSegmentId : s.cancelAll.nextSegmentId = s.nextSegmentId := rfl

theorem transition_run :
    (transition next).run s =
      if Turn.valid s.state next then .ok () (s.enter next) else .error .invalidStateTransition s := by
  cases h : Turn.valid s.state next
  all_goals simp_all [transition, EStateM.zoom_run, Turn.transition_run, state, enter]

-- The loop over the segments runs to its end when its body cancels each of them.
theorem onSegments_run {x : EStateM Rt0ReasonCode OutputEvidence Unit}
    (h : ∀ g ∈ s.outputSegments, x.run g.evidence = .ok () g.evidence.cancelled) :
    (onSegments x).run s = .ok () s.cancelAll := by
  have hz : ∀ g ∈ s.outputSegments,
      (EStateM.zoom OutputSegmentEvidence.evidence (fun g evidence => { g with evidence }) id x).run g =
        .ok () { g with evidence := g.evidence.cancelled } := by
    intro g hg
    simp [EStateM.zoom_run, h g hg]
  have hl := EStateM.forEach_run_eq_ok hz
  simp [onSegments, EStateM.zoom_run, hl, cancelAll]

-- Neither loop meets a cancelled segment, so `interrupt` and the freezing transitions either
-- cancel everything or leave the turn as it is.
theorem WellFormed.interrupt_run (w : s.WellFormed) :
    interrupt.run s =
      if s.state.interruptible then .ok () (s.enter .cancelled).cancelAll
      else .error .invalidStateTransition s := by
  cases h : s.state.interruptible
  case false => simp [interrupt, h]
  case true =>
    have hc := by simpa [TurnState.interruptible_not_frozen h] using w.isCancelled
    have ha : s.outputSegments.any (·.evidence.state.isCancelled) = false := by simpa using hc
    have hl := onSegments_run (s := s.enter .cancelled)
      (x := .adaptExcept (fun _ => .invalidStateTransition) OutputEvidence.markCancelled)
      fun g hg => by simp [EStateM.run_adaptExcept, OutputEvidence.markCancelled_run, hc g hg]
    have hv : Turn.valid s.state .cancelled = true := Turn.valid_frozen h rfl
    simp [interrupt, h, ha, transition_run, hv, hl, -List.any_eq_true]

theorem WellFormed.transitionAndFreeze_run (w : s.WellFormed) (next : TurnFreeze) :
    (transitionAndFreeze next.state).run s =
      if s.state.interruptible then .ok () (s.enter next.state).cancelAll
      else .error .invalidStateTransition s := by
  cases h : s.state.interruptible
  case false =>
    have hv : Turn.valid s.state next.state = false := by
      by_contra hv
      simpa [h] using Turn.valid_interruptible (Bool.not_eq_false _ |>.mp hv)
    simp [transitionAndFreeze, transition_run, hv]
  case true =>
    have hc := by simpa [TurnState.interruptible_not_frozen h] using w.isCancelled
    have hv : Turn.valid s.state next.state = true := Turn.valid_frozen h (by cases next <;> rfl)
    have hl : freezeOutputSegments.run (s.enter next.state) = _ := onSegments_run fun g hg => by
      simp [EStateM.run_adaptExcept, OutputEvidence.markCancelled_run, hc g hg]
    simp [transitionAndFreeze, transition_run, hv, hl]

theorem beginOutputSegment_run :
    beginOutputSegment.run s =
      if s.state ≠ .outputting then .error .invalidStateTransition s
      else if s.nextSegmentId + 1 ≤ u64Max then
        .ok s.nextSegmentId { s with
          nextSegmentId := s.nextSegmentId + 1
          outputSegments := s.outputSegments ++ [⟨s.nextSegmentId, ⟨.generated⟩⟩] }
      else .error .internalError s := by
  have hg : OutputEvidence.markGenerated.run .default = .ok () ⟨.generated⟩ := rfl
  have hc : checkedAdd s.nextSegmentId 1 =
      if s.nextSegmentId + 1 ≤ u64Max then some (s.nextSegmentId + 1) else none := rfl
  by_cases h : s.state = .outputting <;> by_cases hn : s.nextSegmentId + 1 ≤ u64Max
  all_goals simp only [hn, if_true, if_false] at hc ⊢
  all_goals simp [beginOutputSegment, h, hg, hc, okOr]

instance : Std.Refl (Received id) where
  refl _ := ⟨rfl, fun _ => rfl, .refl⟩

theorem writeSegment_received {gs : List OutputSegmentEvidence} {g : OutputSegmentEvidence}
    {e : OutputEvidence} (hf : gs.find? (·.id == id) = some g) (ha : g.evidence.Advances e) :
    gs.Forall₂ (Received id) (writeSegment id e gs) := by
  induction gs
  case nil => simp at hf
  case cons g' gs hi =>
    by_cases hg : g'.id = id
    case pos =>
      obtain rfl : g' = g := by simpa [hg] using hf
      rw [writeSegment, if_pos hg]
      exact .cons ⟨rfl, absurd hg, ha⟩ (List.forall₂_refl _)
    case neg =>
      rw [writeSegment, if_neg hg]
      exact .cons (Std.Refl.refl _) (hi <| by simpa [hg] using hf)

-- A receipt changes nothing but the evidence of its own segment.
theorem reconcile_received {x : EStateM OutputTransitionError OutputEvidence Unit}
    (hx : ∀ e : OutputEvidence, e.Advances (x.run e).state) :
    ∃ gs, s.outputSegments.Forall₂ (Received id) gs ∧
      ((reconcile x id).run s).state = { s with outputSegments := gs } := by
  cases hf : s.outputSegments.find? (·.id == id)
  case none => exact ⟨_, List.forall₂_refl _, by simp [reconcile, hf]⟩
  case some g =>
    refine ⟨_, writeSegment_received hf (hx g.evidence), ?_⟩
    cases hr : x.run g.evidence <;> simp [reconcile, hf, hr, EStateM.Result.toExcept]

theorem receipt_received (r : Receipt) (id : Nat) (s : TurnMutableState) :
    ∃ gs, s.outputSegments.Forall₂ (Received id) gs ∧
      ((r.reconcile id).run s).state = { s with outputSegments := gs } := by
  cases r
  case deliveryUncertain => exact reconcile_received fun _ => OutputEvidence.markDeliveryUncertain_advances
  case sent              => exact reconcile_received fun _ => OutputEvidence.reconcileSent_advances
  case played            => exact reconcile_received fun _ => OutputEvidence.reconcilePlayed_advances

theorem mediaStamp_change {x : TurnMediaState.Stamping MediaTimelineStamp} {timeline : MediaTimeline} :
    s.Change ((mediaStamp x).run (s, timeline)).state.1 := by
  by_cases h : s.state = .outputting
  case neg => simpa [mediaStamp, h] using Change.media s.media
  case pos =>
    cases hx : x.run (s.media, timeline)
    all_goals simpa [mediaStamp, h, EStateM.zoom_run, hx] using Change.media _

theorem map_state {α β σ : Type} {f : α → β} {x : EStateM Rt0ReasonCode σ α} {t : σ} :
    ((f <$> x).run t).state = (x.run t).state := by
  cases hx : x.run t <;> simp [hx]

theorem onTurn_state {α : Type} {x : Update α} {timeline : MediaTimeline} :
    ((TurnCall.onTurn x).run (s, timeline)).state.1 = (x.run s).state := by
  cases hx : x.run s <;> simp [TurnCall.onTurn, EStateM.zoom_run, hx]

theorem call_change (w : s.WellFormed) (c : TurnCall) (timeline : MediaTimeline) :
    s.Change (c.call.run (s, timeline)).state.1 := by
  cases c <;> simp only [TurnCall.call, onTurn_state]
  case transition next =>
    cases hv : Turn.valid s.state next.state <;> simp [transition_run, hv]
    case false => exact .media s.media
    case true  => exact .enter hv (by cases next <;> rfl)
  case transitionAndFreeze next =>
    cases hi : s.state.interruptible <;> simp [w.transitionAndFreeze_run, hi]
    case false => exact .media s.media
    case true  => exact .freeze hi (by cases next <;> rfl)
  case interrupt =>
    cases hi : s.state.interruptible <;> simp [w.interrupt_run, hi]
    case false => exact .media s.media
    case true  => exact .freeze hi rfl
  case beginOutputSegment =>
    rw [beginOutputSegment_run]
    split_ifs with h
    · exact .media s.media
    · exact .segment (not_not.mp h)
    · exact .media s.media
  case reconcile r id =>
    have ⟨_, hg, hs⟩ := receipt_received r id s
    exact hs ▸ .receipt hg
  all_goals
    rw [map_state]
    exact mediaStamp_change

theorem Received.ids {gs gs' : List OutputSegmentEvidence} (h : gs.Forall₂ (Received id) gs') :
    gs'.map (·.id) = gs.map (·.id) := by
  induction h
  case nil          => rfl
  case cons h _ hi => simp [h.id_eq, hi]

theorem Received.isCancelled {gs gs' : List OutputSegmentEvidence} {b : Bool}
    (h : gs.Forall₂ (Received id) gs') (hb : ∀ g ∈ gs, g.evidence.state.isCancelled = b) :
    ∀ g ∈ gs', g.evidence.state.isCancelled = b := by
  induction h
  case nil         => simp
  case cons h _ hi => simp_all [h.advances.isCancelled]

namespace Change

theorem preserves_wellFormed (w : s.WellFormed) (c : s.Change s') : s'.WellFormed := by
  cases c
  case media => exact ⟨w.isCancelled, w.ids, w.nextId⟩
  case enter next hv hf =>
    have hs := TurnState.interruptible_not_frozen (Turn.valid_interruptible hv)
    exact ⟨by simpa [hs, hf] using w.isCancelled, w.ids, w.nextId⟩
  case freeze next _ hf =>
    refine ⟨?_, ?_, ?_⟩
    · simp only [cancelAll_state, enter_state, hf]
      simp [cancelAll, OutputEvidence.cancelled_isCancelled]
    · simpa [cancelAll, Function.comp_def] using w.ids
    · simpa [cancelAll] using w.nextId
  case segment hs =>
    refine ⟨?_, ?_, ?_⟩
    · intro g hg
      obtain hg | rfl : g ∈ s.outputSegments ∨ g = ⟨s.nextSegmentId, ⟨.generated⟩⟩ := by
        simpa using hg
      · exact w.isCancelled g hg
      · exact (congrArg TurnState.frozen hs).symm
    · simp [w.ids, w.nextId, List.range'_1_concat, Nat.add_comm]
    · simp [w.nextId]
  case receipt id gs hg =>
    refine ⟨Received.isCancelled hg w.isCancelled, ?_, ?_⟩
    · simpa [Received.ids hg, hg.length_eq] using w.ids
    · simpa [hg.length_eq] using w.nextId

theorem preserves_terminal (c : s.Change s') (h : s.state.terminal = true) : s'.state = s.state := by
  cases c
  case media | receipt => rfl
  case enter hv _ => simp [TurnState.terminal, Turn.valid_interruptible hv] at h
  case freeze hi _ => simp [TurnState.terminal, hi] at h
  case segment hs => simp [hs, TurnState.terminal, TurnState.interruptible] at h

end Change

theorem step_change {s s' : TurnMutableState × MediaTimeline} {e : TurnEvent}
    {o : List (TurnCall × Except Rt0ReasonCode Unit)} (w : s.1.WellFormed)
    (h : machine.step s e = some (s', o)) : s.1.Change s'.1 := by
  cases e
  case call c =>
    obtain ⟨rfl, -⟩ := by simpa [machine] using h
    exact call_change w c s.2
  case timeline =>
    obtain ⟨rfl, -⟩ := by simpa [machine] using h
    exact .media s.1.media

theorem run_wellFormed {t : List (TurnCall × Except Rt0ReasonCode Unit)}
    {s : TurnMutableState × MediaTimeline} : (machine.Run t s) → s.1.WellFormed :=
  Machine.Run.state_invariant (P := (·.1.WellFormed))
    (fun ⟨_, _, _, h⟩ => h ▸ new_wellFormed _ _)
    (fun w h => (step_change w h).preserves_wellFormed w)

-- What holds of a turn in every state that it reaches.
structure Lifecycle (s : TurnMutableState × MediaTimeline) : Prop where
  isCancelled_iff_frozen :
    ∀ g ∈ s.1.outputSegments, g.evidence.state.isCancelled = true ↔ s.1.state.frozen = true
  interrupt_isOk_iff : (interrupt.run s.1).isOk = true ↔ s.1.state.interruptible = true
  interrupt_atomic   : (interrupt.run s.1).isOk = false → (interrupt.run s.1).state = s.1
  freeze_atomic      : ∀ next : TurnFreeze, ((transitionAndFreeze next.state).run s.1).isOk = false →
    ((transitionAndFreeze next.state).run s.1).state = s.1
  terminal_stable    : s.1.state.terminal = true →
    ∀ {t s'}, machine.Steps s t s' → s'.1.state = s.1.state
  segment_ids        : s.1.outputSegments.map (·.id) = List.range' 1 s.1.outputSegments.length
  receipt_local      : ∀ (r : Receipt) id, ∃ gs, s.1.outputSegments.Forall₂ (Received id) gs ∧
    ((r.reconcile id).run s.1).state = { s.1 with outputSegments := gs }

theorem run_lifecycle {t : List (TurnCall × Except Rt0ReasonCode Unit)}
    {s : TurnMutableState × MediaTimeline} (r : machine.Run t s) : Lifecycle s := by
  have w := run_wellFormed r
  refine ⟨?iff, ?isOk, ?interrupt, ?freeze, ?terminal, w.ids, fun r id => receipt_received r id s.1⟩
  case iff       => exact fun g hg => by rw [w.isCancelled g hg]
  case isOk      => cases h : s.1.state.interruptible <;> simp [w.interrupt_run, h]
  case interrupt => cases h : s.1.state.interruptible <;> simp [w.interrupt_run, h]
  case freeze    => cases h : s.1.state.interruptible <;> simp [w.transitionAndFreeze_run, h]
  case terminal  =>
    -- The turn stays well-formed on the way, so every further step is again one of the changes.
    intro ht t s' e
    have h := e.stable (P := fun s' => s'.1.WellFormed ∧ s'.1.state = s.1.state)
      (fun ⟨w, hs⟩ h =>
        have c := step_change w h
        ⟨c.preserves_wellFormed w, (c.preserves_terminal (hs ▸ ht)).trans hs⟩)
      ⟨w, rfl⟩
    exact h.right

-- A turn that is interrupted while its first segment is out.
theorem run_lifecycle_interrupted : ∃ t s, machine.Run t s ∧ s.1.state = .cancelled ∧ Lifecycle s :=
  let id : CanonicalId := ⟨"turn", by decide, by decide⟩
  have r := Machine.Run.of_replay (m := machine) (.new (.new id id) 1, .new)
    [.call (.transition .authorized), .call (.transition .processing),
      .call (.transition .outputting), .call .beginOutputSegment, .call (.reconcile .sent 1),
      .call .interrupt]
    ⟨id, id, 1, rfl⟩ rfl
  ⟨_, _, r, rfl, run_lifecycle r⟩

end TurnMutableState
