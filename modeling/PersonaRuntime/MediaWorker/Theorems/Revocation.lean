import PersonaRuntime.MediaWorker.Theorems.Evidence

-- The observations after which an operation has to stay revoked.
def MediaObservation.revokes (id : String) : MediaObservation → Bool
  | cancelCommitted id' _ => id' = id
  | quarantined ids       => id ∈ ids
  | _                     => false

def Ledger.Revoked (ledger : Ledger) (id : String) : Prop :=
  ∃ row, AList.lookup id ledger = some row ∧ row.phase ≠ .creating ∧ row.phase ≠ .active

namespace Ledger

variable {t : List MediaObservation} {creates : Option CreateCall} {exclusive : Bool} {id : String}
  {row row' : MediaOperation} {ledger ledger' : Ledger}

theorem Sets.revoked (h : ledger.Sets id row ledger') (hc : row.phase ≠ .creating)
    (ha : row.phase ≠ .active) : ledger'.Revoked id :=
  ⟨row, (h id).trans (if_pos rfl), hc, ha⟩

-- Only the `create` of an operation that is still creating makes it active.
theorem Edits.revoked (h : ledger.Revoked id) (e : Edits t creates exclusive ledger ledger') :
    ledger'.Revoked id := by
  have ⟨row, hl, hc, ha⟩ := h
  obtain ⟨row', hl', rfl | e⟩ := e.kept hl
  case inl => exact ⟨_, hl', hc, ha⟩
  refine ⟨_, hl', ?_⟩
  cases e
  case create hp ha' _         => exact ⟨hp.left, fun h => hc (ha' h)⟩
  case revoke hp _ _           => obtain rfl | rfl := hp <;> simp
  case mark hp _ _             => obtain rfl | rfl := hp <;> simp
  case confirmActual           => exact ⟨hc, ha⟩
  case confirm                 => simp

theorem quarantine_revoked (h : id ∈ ledger.keys) : ledger.quarantine.Revoked id := by
  have ⟨row, hl⟩ := Option.isSome_iff_exists.mp (AList.lookup_isSome.mpr h)
  cases hu : row.unresolved
  case true =>
    exact ⟨_, by simp [quarantine, Table.lookup_update, hl, hu]; rfl, by simp, by simp⟩
  case false =>
    refine ⟨row, by simp [quarantine, Table.lookup_update, hl, hu], ?_⟩
    have hp : row.phase = .stopped := by
      by_contra hp
      simp [MediaOperation.unresolved, hp] at hu
    simp [hp]

end Ledger

namespace MediaTask.Move

variable {ledger : Ledger} {task : MediaTask} {r : Outcome} {id : String}

theorem created {generation : Nat} {sessionId : SenderId} (m : Move ledger task r)
    (h : .created id generation sessionId ∈ r.seen) : ¬ledger.Revoked id := by
  rintro ⟨row, hl, hc, ha⟩
  cases m
  case existing hl' hp =>
    obtain ⟨rfl, _⟩ := by simpa using h
    obtain rfl := Option.some.inj (hl.symm.trans hl')
    exact ha hp
  case activated hl' hp _ =>
    obtain ⟨rfl, _⟩ := by simpa using h
    obtain rfl := Option.some.inj (hl.symm.trans hl')
    exact hc hp
  case failing hs => simpa using hs _ h
  all_goals simp at h

theorem revokes {o : MediaObservation} (m : Move ledger task r) (hm : o ∈ r.seen)
    (h : o.revokes id = true) : r.ledger.Revoked id := by
  cases m
  case tombstoned hs =>
    obtain rfl := by simpa using hm
    obtain rfl := by simpa [MediaObservation.revokes] using h
    exact hs.revoked (by simp) (by simp)
  case cancelled hp _ _ hs _ =>
    obtain rfl := by simpa using hm
    obtain rfl := by simpa [MediaObservation.revokes] using h
    exact hs.revoked (by obtain rfl | rfl := hp <;> simp) (by obtain rfl | rfl := hp <;> simp)
  case cancelledStopped hl hp =>
    obtain rfl := by simpa using hm
    obtain rfl := by simpa [MediaObservation.revokes] using h
    exact ⟨_, hl, by simp [hp], by simp [hp]⟩
  case cancelledVerified hl _ hp _ _ =>
    obtain rfl | rfl := by simpa using hm
    · obtain rfl := by simpa [MediaObservation.revokes] using h
      exact ⟨_, hl, by simp [hp], by simp [hp]⟩
    · simp [MediaObservation.revokes] at h
  case failing hs =>
    have hs := hs _ hm
    cases o <;> simp [MediaObservation.revokes] at h hs
  case activated =>
    obtain rfl | rfl := by simpa using hm
    all_goals simp [MediaObservation.revokes] at h
  all_goals simp at hm
  all_goals
    obtain rfl := hm
    simp [MediaObservation.revokes] at h

end MediaTask.Move

namespace MediaLifecycle

variable {t t' o : List MediaObservation} {s s' : MediaLifecycle} {e : MediaEvent} {id : String}

theorem Sound.transition_edits (h : Sound t s) (st : Transition s e s' o) :
    ∃ creates exclusive, Ledger.Edits t creates exclusive s.ledger s'.ledger := by
  cases st
  case quarantined  => exact ⟨_, _, Ledger.quarantine_edits⟩
  case moved hi m _ => exact ⟨_, _, h.edits hi m⟩
  all_goals exact ⟨none, false, .refl⟩

theorem Sound.revoked (h : Sound t s) (hr : s.ledger.Revoked id) (st : Transition s e s' o) :
    s'.ledger.Revoked id ∧ ∀ generation sessionId, .created id generation sessionId ∉ o := by
  have ⟨_, _, e⟩ := h.transition_edits st
  refine ⟨e.revoked hr, fun generation sessionId hm => ?_⟩
  cases st
  case moved hi m _ => exact m.created hm hr
  all_goals simp at hm

theorem Transition.revokes {x : MediaObservation} (st : Transition s e s' o) (hm : x ∈ o)
    (h : x.revokes id = true) : s'.ledger.Revoked id := by
  cases st
  case quarantined =>
    obtain rfl := by simpa using hm
    exact Ledger.quarantine_revoked (by simpa [MediaObservation.revokes] using h)
  case moved hi m _ => exact m.revokes hm h
  all_goals simp at hm

-- Whatever was cancelled or quarantined in the run so far is revoked.
structure Revoking (t : List MediaObservation) (s : MediaLifecycle) : Prop where
  sound   : Sound t s
  revoked : ∀ {x id}, x ∈ t → x.revokes id = true → s.ledger.Revoked id

theorem Revoking.transition (h : Revoking t s) (st : Transition s e s' o) : Revoking (t ++ o) s' where
  sound := h.sound.transition st
  revoked hm hx := by
    obtain hm | hm := List.mem_append.mp hm
    · exact (h.sound.revoked (h.revoked hm hx) st).left
    · exact st.revokes hm hx

theorem run_revoking : (machine.Run t s) → Revoking t s :=
  Machine.Run.invariant (fun h => ⟨h ▸ initial_sound, by simp⟩) fun h hs =>
    h.transition (step_transition hs)

theorem Sound.steps_revoked (h : Sound t s) (hr : s.ledger.Revoked id) (e : machine.Steps s t' s') :
    s'.ledger.Revoked id ∧ ∀ generation sessionId, .created id generation sessionId ∉ t' := by
  induction e generalizing t
  case refl => exact ⟨hr, by simp⟩
  case trans hs _ hi =>
    have st := step_transition hs
    have ⟨hr, hn⟩ := h.revoked hr st
    have ⟨hr', hn'⟩ := hi (h.transition st) hr
    exact ⟨hr', by simp [hn, hn']⟩

theorem run_revocation_monotone {x : MediaObservation} (r : machine.Run t s) (hm : x ∈ t)
    (h : x.revokes id = true) (e : machine.Steps s t' s') :
    (∃ row, AList.lookup id s'.ledger = some row ∧ row.phase ≠ .creating ∧ row.phase ≠ .active) ∧
    ∀ generation sessionId, .created id generation sessionId ∉ t' :=
  (run_sound r).steps_revoked ((run_revoking r).revoked hm h) e

-- Another process cancels the operation while its allocation runs.
theorem run_revocation_monotone_cancelled : ∃ t s t' s', machine.Run t s ∧
    MediaObservation.cancelCommitted "operation" 1 ∈ t ∧ machine.Steps s t' s' ∧
    (∃ row, AList.lookup "operation" s'.ledger = some row ∧ row.phase ≠ .creating ∧ row.phase ≠ .active) ∧
    ∀ generation sessionId, .created "operation" generation sessionId ∉ t' :=
  have r : machine.Run [.quarantined [], .quarantined [], .cancelCommitted "operation" 1] _ :=
    .of_replay initial [.start 1, .start 2, .create 1 1 "operation" 1 none, .step 1 .ok,
      .cancel 2 2 "operation" 1 true, .step 2 .ok] rfl rfl
  have e : machine.Steps _ [.finished ⟨"operation", 1, none⟩ ⟨"sender", by decide⟩] _ :=
    .of_replay [.step 1 (.allocated "sender"), .step 1 .ok] rfl
  have hm : .cancelCommitted "operation" 1 ∈
      [MediaObservation.quarantined [], .quarantined [], .cancelCommitted "operation" 1] := by simp
  ⟨_, _, _, _, r, hm, e, run_revocation_monotone r hm (by decide) e⟩

end MediaLifecycle
