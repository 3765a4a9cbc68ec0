import PersonaRuntime.Domain.Session

namespace OutputEvidence

variable {e : OutputEvidence}

-- What `markCancelled` makes of evidence that is not cancelled yet.
def cancelled (e : OutputEvidence) : OutputEvidence :=
  match e.state with
  | .pending           => ⟨.cancelled .pending⟩
  | .generated         => ⟨.cancelled .generated⟩
  | .deliveryUncertain => ⟨.cancelledDeliveryUncertain⟩
  | .sent              => ⟨.cancelled .sent⟩
  | .played            => ⟨.cancelled .played⟩
  | .cancelled _ | .cancelledDeliveryUncertain => e

theorem cancelled_isCancelled : e.cancelled.state.isCancelled = true := by
  have ⟨state⟩ := e
  cases state <;> rfl

theorem markCancelled_run (h : e.state.isCancelled = false) :
    markCancelled.run e = .ok () e.cancelled := by
  have ⟨state⟩ := e
  cases state
  case cancelled | cancelledDeliveryUncertain => simp [OutputDeliveryState.isCancelled] at h
  all_goals simp [markCancelled, cancelled]

-- A receipt never moves evidence into or out of the cancelled states and never takes back how far
-- the segment got, whether the receipt is accepted or not.
structure Advances (e e' : OutputEvidence) : Prop where
  isCancelled : e'.state.isCancelled = e.state.isCancelled
  rank        : e.rank ≤ e'.rank

theorem Advances.refl : e.Advances e :=
  ⟨rfl, Nat.le_refl _⟩

theorem markDeliveryUncertain_advances : e.Advances (markDeliveryUncertain.run e).state := by
  have ⟨state⟩ := e
  cases state
  case cancelled c => cases c <;> exact ⟨rfl, by decide⟩
  all_goals exact ⟨rfl, by decide⟩

theorem reconcileSent_advances : e.Advances (reconcileSent.run e).state := by
  have ⟨state⟩ := e
  cases state
  case cancelled c => cases c <;> exact ⟨rfl, by decide⟩
  all_goals exact ⟨rfl, by decide⟩

theorem reconcilePlayed_advances : e.Advances (reconcilePlayed.run e).state := by
  have ⟨state⟩ := e
  cases state
  case cancelled c => cases c <;> exact ⟨rfl, by decide⟩
  all_goals exact ⟨rfl, by decide⟩

end OutputEvidence
