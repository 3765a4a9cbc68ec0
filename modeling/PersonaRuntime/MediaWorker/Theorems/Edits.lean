import PersonaRuntime.MediaWorker.Theorems.Moves

-- The backend has confirmed that both tracks of the target are stopped.
def Accepted (t : List MediaObservation) (target : StopTarget) : Prop :=
  ∃ receipt, .stopAnswered target receipt ∈ t ∧ receipt.validate target = true

theorem Accepted.append {t t' : List MediaObservation} {target : StopTarget} :
    (Accepted t target) → Accepted (t ++ t') target
  | ⟨receipt, hm, hv⟩ => ⟨receipt, List.mem_append_left _ hm, hv⟩

namespace MediaOperation

theorem unresolved_iff {row : MediaOperation} :
    row.unresolved = true ↔
      (row.phase = .stopped → row.sessionId ≠ none ∧ row.stopVerified = false) := by
  by_cases hp : row.phase = .stopped <;> simp [unresolved, hp, Option.isSome_iff_ne_none]

-- The session of a row is stopped, and so is the preassigned one if it is another.
structure AllStopped (t : List MediaObservation) (id : String) (row : MediaOperation)
    (sessionId : SenderId) : Prop where
  actual      : Accepted t ⟨id, sessionId, row.generation⟩
  preassigned : ∀ {p}, row.preassignedSessionId = some p → p ≠ sessionId →
    Accepted t ⟨id, p, row.generation⟩

-- What the columns of a row stand for.
structure Backed (t : List MediaObservation) (id : String) (row : MediaOperation) : Prop where
  creating : row.phase = .creating → row.sessionId = none
  stopped  : row.phase = .stopped → row.sessionId = none ∨ row.stopVerified = true
  actual   : row.actualStopConfirmed = true →
    ∃ sessionId, row.sessionId = some sessionId ∧ Accepted t ⟨id, sessionId, row.generation⟩
  verified : row.stopVerified = true →
    ∃ sessionId, row.sessionId = some sessionId ∧ row.AllStopped t id sessionId

variable {t t' : List MediaObservation} {id : String} {row : MediaOperation} {sessionId : SenderId}

theorem AllStopped.append (h : row.AllStopped t id sessionId) : row.AllStopped (t ++ t') id sessionId :=
  ⟨h.actual.append, fun hp hn => (h.preassigned hp hn).append⟩

-- Both senders are stopped, whichever of them the row is about.
theorem AllStopped.of_preassigned {sessionId' : SenderId} (h : row.AllStopped t id sessionId)
    (hs : sessionId' = sessionId ∨ row.preassignedSessionId = some sessionId') :
    row.AllStopped t id sessionId' := by
  by_cases he : sessionId' = sessionId
  case pos => exact he ▸ h
  case neg =>
    have hq := hs.resolve_left he
    refine ⟨h.preassigned hq he, fun hq' hn => ?_⟩
    exact absurd (by simpa [hq] using hq'.symm) hn

namespace Backed

theorem append (b : row.Backed t id) : row.Backed (t ++ t') id where
  creating := b.creating
  stopped  := b.stopped
  actual h :=
    have ⟨sessionId, hs, ha⟩ := b.actual h
    ⟨sessionId, hs, ha.append⟩
  verified h :=
    have ⟨sessionId, hs, ha⟩ := b.verified h
    ⟨sessionId, hs, ha.append⟩

theorem not_actual (b : row.Backed t id) (h : row.sessionId = none) : row.actualStopConfirmed = false := by
  by_contra ha
  have ⟨_, hs, _⟩ := b.actual (by simpa using ha)
  simp [h] at hs

theorem not_verified (b : row.Backed t id) (h : row.sessionId = none) : row.stopVerified = false := by
  by_contra hv
  have ⟨_, hs, _⟩ := b.verified (by simpa using hv)
  simp [h] at hs

end Backed
end MediaOperation

-- What the row of a `create` looks like while its allocation runs. Whatever other processes do to it,
-- the only sender that they can have found in it is the preassigned one.
structure CreateCall.InFlight (c : CreateCall) (row : MediaOperation) : Prop where
  generation  : row.generation = c.generation
  preassigned : row.preassignedSessionId = c.recoveryId
  session     : row.sessionId = none ∨ row.sessionId = row.preassignedSessionId
  inactive    : row.phase ≠ .active
  actual      : row.actualStopConfirmed = false
  verified    : row.stopVerified = true → row.phase = .stopped

-- Another process may have replaced the session of a row under a running `_finish_stop`, but then the
-- session that is being stopped is the preassigned one.
structure StopTarget.Tracks (target : StopTarget) (row : MediaOperation) : Prop where
  generation : row.generation = target.generation
  session    : row.sessionId = some target.sessionId ∨ row.preassignedSessionId = some target.sessionId

-- Whether a point of `_finish_stop` relies on an earlier read of the row.
def StopPoint.relies : StopPoint → Bool
  | acquire | read | fail => false
  | _                     => true

def StopPoint.Holds (t : List MediaObservation) (target : StopTarget) (row : MediaOperation) :
    StopPoint → Prop
  | acquire | read | fail => True
  | readVerified => row.stopVerified = true
  -- A stopped row with a session is verified. So the branch for older ledgers is not taken.
  | markUncertain | reread => False
  | markStopping =>
    row.phase ≠ .stopped ∧ (row.sessionId ≠ some target.sessionId → row.actualStopConfirmed = false)
  | readIdentities => row.sessionId ≠ some target.sessionId → row.actualStopConfirmed = false
  | stopActual preassigned => row.preassignedSessionId = preassigned
  | confirmActual preassigned | stopPreassigned preassigned =>
    row.preassignedSessionId = some preassigned ∧ preassigned ≠ target.sessionId ∧ Accepted t target
  | confirm => row.AllStopped t target.operationId target.sessionId

namespace MediaTask

-- The call whose allocation a task has started.
def creates : MediaTask → Option CreateCall
  | allocating c | allocated c _ | allocationFailed c _ => some c
  | _ => none

-- What a task relies on, though it reads and writes in separate steps.
def Backed (t : List MediaObservation) (ledger : Ledger) : MediaTask → Prop
  | allocating c | allocated c _ | allocationFailed c _ =>
    ∃ row, AList.lookup c.operationId ledger = some row ∧ c.InFlight row
  | stop target point _ =>
    point.relies = true → ∃ row, AList.lookup target.operationId ledger = some row ∧
      target.Tracks row ∧ point.Holds t target row
  | _ => True

end MediaTask

namespace Ledger

def Backed (t : List MediaObservation) (ledger : Ledger) : Prop :=
  ∀ {id row}, AList.lookup id ledger = some row → row.Backed t id

-- What the writers can do to an existing row: `create` for the call whose allocation is running, the
-- one `_finish_stop` that is under way, and everybody else.
inductive Edit (t : List MediaObservation) (creates : Option CreateCall) (exclusive : Bool) (id : String)
    (row : MediaOperation) : MediaOperation → Prop
  | create {c phase sessionId} :
    (creates = some c) → (c.operationId = id) → (c.InFlight row) →
    (phase ≠ .creating ∧ phase ≠ .stopped) → (phase = .active → row.phase = .creating) →
    (row.stopVerified = true → sessionId = row.sessionId) →
    Edit t creates exclusive id row { row with phase, sessionId }
  | revoke {phase sessionId} :
    (phase = .stopping ∨ phase = .uncertain) → (row.unresolved = true) →
    (sessionId = row.sessionId ∨ row.sessionId = none ∧ sessionId = row.preassignedSessionId) →
    Edit t creates exclusive id row { row with phase, sessionId }
  | mark {phase sessionId} :
    (exclusive = true) → (phase = .stopping ∨ phase = .uncertain) → (row.phase ≠ .stopped) →
    (row.sessionId = some sessionId ∨
      row.preassignedSessionId = some sessionId ∧ row.actualStopConfirmed = false) →
    Edit t creates exclusive id row { row with phase, sessionId := some sessionId }
  | confirmActual {sessionId preassigned} :
    (exclusive = true) → (row.phase = .stopping) → (row.sessionId = some sessionId) →
    (row.preassignedSessionId = some preassigned) → (preassigned ≠ sessionId) →
    (Accepted t ⟨id, sessionId, row.generation⟩) →
    Edit t creates exclusive id row { row with actualStopConfirmed := true }
  | confirm {sessionId} :
    (exclusive = true) → (row.phase = .stopping) → (row.sessionId = some sessionId) →
    (row.AllStopped t id sessionId) →
    Edit t creates exclusive id row { row with phase := .stopped, stopVerified := true }

-- A row before anybody has written to it again.
structure Fresh (row : MediaOperation) : Prop where
  phase    : row.phase = .creating ∨ row.phase = .stopped
  session  : row.sessionId = none
  actual   : row.actualStopConfirmed = false
  verified : row.stopVerified = false

-- Rows are never deleted.
structure Edits (t : List MediaObservation) (creates : Option CreateCall) (exclusive : Bool)
    (ledger ledger' : Ledger) : Prop where
  kept : ∀ {id row}, AList.lookup id ledger = some row →
    ∃ row', AList.lookup id ledger' = some row' ∧ (row' = row ∨ Edit t creates exclusive id row row')
  added : ∀ {id row'}, AList.lookup id ledger = none → AList.lookup id ledger' = some row' → Fresh row'

variable {t : List MediaObservation} {creates : Option CreateCall} {exclusive : Bool} {id : String}
  {row row' : MediaOperation} {ledger ledger' : Ledger}

theorem Backed.append {t' : List MediaObservation} (b : ledger.Backed t) : ledger.Backed (t ++ t') :=
  fun hl => (b hl).append

theorem Edits.refl : Edits t creates exclusive ledger ledger where
  kept h     := ⟨_, h, .inl rfl⟩
  added h h' := by simp [h] at h'

theorem Edits.of_sets (hl : AList.lookup id ledger = some row)
    (e : Edit t creates exclusive id row row') (h : ledger.Sets id row' ledger') :
    Edits t creates exclusive ledger ledger' where
  kept {id' row₁} hl' := by
    by_cases hi : id' = id
    case pos =>
      subst hi
      obtain rfl : row = row₁ := by simpa [hl] using hl'
      exact ⟨row', by simp [h id'], .inr e⟩
    case neg => exact ⟨row₁, by simp [h id', hi, hl'], .inl rfl⟩
  added {id' _} hn hl' := by
    by_cases hi : id' = id
    case pos =>
      subst hi
      simp [hn] at hl
    case neg => simp [h id', hi, hn] at hl'

theorem Edits.of_sets_new (hl : AList.lookup id ledger = none) (f : Fresh row')
    (h : ledger.Sets id row' ledger') : Edits t creates exclusive ledger ledger' where
  kept {id' row₁} hl' := by
    have hi : id' ≠ id := by
      rintro rfl
      simp [hl] at hl'
    exact ⟨row₁, by simp [h id', hi, hl'], .inl rfl⟩
  added {id' row₁} hn hl' := by
    by_cases hi : id' = id
    case pos =>
      obtain rfl : row' = row₁ := by simpa [h id', hi] using hl'
      exact f
    case neg => simp [h id', hi, hn] at hl'

theorem Edit.backed (b : row.Backed t id) (e : Edit t creates exclusive id row row') :
    row'.Backed t id := by
  cases e
  case create c phase sessionId _ _ hc hp _ hv =>
    refine ⟨fun h => absurd h hp.left, fun h => absurd h hp.right, ?_, fun h => ?_⟩
    · simp [hc.actual]
    · have ⟨s, hs, ha⟩ := b.verified h
      exact ⟨s, (hv h).trans hs, ha.actual, ha.preassigned⟩
  case revoke phase sessionId hp _ hs =>
    have hs' : ∀ {s}, row.sessionId = some s → sessionId = some s := by grind
    refine ⟨fun h => ?_, fun h => ?_, fun h => ?_, fun h => ?_⟩
    · obtain rfl | rfl := hp <;> cases h
    · obtain rfl | rfl := hp <;> cases h
    · have ⟨s, hs, ha⟩ := b.actual h
      exact ⟨s, hs' hs, ha⟩
    · have ⟨s, hs, ha⟩ := b.verified h
      exact ⟨s, hs' hs, ha.actual, ha.preassigned⟩
  case mark phase s _ hp _ hs =>
    refine ⟨fun h => ?_, fun h => ?_, fun h => ?_, fun h => ?_⟩
    · obtain rfl | rfl := hp <;> cases h
    · obtain rfl | rfl := hp <;> cases h
    · have ⟨s', hs', ha⟩ := b.actual h
      obtain rfl : s' = s := by
        obtain hs | ⟨_, hn⟩ := hs
        · simpa [hs'] using hs
        · simp [hn] at h
      exact ⟨s', rfl, ha⟩
    · have ⟨s', hs', ha⟩ := b.verified h
      have ha' : row.AllStopped t id s := ha.of_preassigned <| by
        obtain hs | ⟨hq, _⟩ := hs
        · exact .inl (by simpa [hs'] using hs.symm)
        · exact .inr hq
      exact ⟨s, rfl, ha'.actual, ha'.preassigned⟩
  case confirmActual s p _ hp hs _ _ ha =>
    exact { b with creating := b.creating, actual := fun _ => ⟨s, hs, ha⟩, verified := fun h =>
      have ⟨s, hs, ha⟩ := b.verified h
      ⟨s, hs, ha.actual, ha.preassigned⟩ }
  case confirm s _ hp hs ha =>
    exact ⟨by simp, by simp, b.actual, fun _ => ⟨s, hs, ha.actual, ha.preassigned⟩⟩

theorem Fresh.backed (f : Fresh row) : row.Backed t id where
  creating _ := f.session
  stopped _  := .inl f.session
  actual h   := by simp [f.actual] at h
  verified h := by simp [f.verified] at h

theorem Edits.backed (b : ledger.Backed t) (e : Edits t creates exclusive ledger ledger') :
    ledger'.Backed t := by
  intro id row' hl'
  cases hl : AList.lookup id ledger
  case none => exact (e.added hl hl').backed
  case some row =>
    have ⟨row₁, hl₁, h⟩ := e.kept hl
    obtain rfl : row₁ = row' := by simpa [hl₁] using hl'
    obtain rfl | h := h
    · exact b hl
    · exact h.backed (b hl)

theorem Edit.inFlight {c : CreateCall} (h : c.InFlight row)
    (hc : ∀ {c}, creates = some c → c.operationId ≠ id) (e : Edit t creates exclusive id row row') :
    c.InFlight row' := by
  cases e
  case create h' hi _ _ _ _ => exact absurd hi (hc h')
  case revoke phase sessionId hp hu hs =>
    have hv : row.stopVerified = false := by
      by_contra hv
      have hp := h.verified (by simpa using hv)
      exact hv (MediaOperation.unresolved_iff.mp hu hp).right
    refine ⟨h.generation, h.preassigned, ?_, ?_, h.actual, fun hv' => by simp [hv] at hv'⟩
    · obtain rfl | ⟨_, rfl⟩ := hs
      · exact h.session
      · exact .inr rfl
    · obtain rfl | rfl := hp <;> simp
  case mark phase s _ hp hn hs =>
    have hs' : some s = row.preassignedSessionId := by
      obtain hs | ⟨hs, _⟩ := hs
      · exact (h.session.resolve_left (by simp [hs])).symm.trans hs |>.symm
      · exact hs.symm
    refine ⟨h.generation, h.preassigned, .inr hs', ?_, h.actual, fun hv => absurd (h.verified hv) hn⟩
    obtain rfl | rfl := hp <;> simp
  case confirmActual s p _ _ hs hq hn _ =>
    have hq' := h.session.resolve_left (by simp [hs])
    exact absurd (by simpa [hs, hq] using hq'.symm) hn
  case confirm => exact ⟨h.generation, h.preassigned, h.session, by simp, h.actual, by simp⟩

theorem Edit.tracks {target : StopTarget} (h : target.Tracks row)
    (e : Edit t creates false id row row') : target.Tracks row' := by
  cases e
  case create c phase sessionId _ _ hc _ _ _ =>
    refine ⟨h.generation, .inr <| h.session.elim (fun hs => ?_) (·)⟩
    exact (hc.session.resolve_left (by simp [hs])).symm.trans hs
  case revoke phase sessionId _ _ hs =>
    refine ⟨h.generation, h.session.imp_left fun h => ?_⟩
    obtain rfl | ⟨hn, _⟩ := hs
    · exact h
    · simp [h] at hn
  all_goals contradiction

theorem Edit.holds {target : StopTarget} {point : StopPoint} (b : row.Backed t id)
    (h : point.Holds t target row) (e : Edit t creates false id row row') :
    point.Holds t target row' := by
  cases e
  case create c phase sessionId _ _ hc hp _ _ =>
    cases point
    case markStopping   => exact ⟨hp.right, fun _ => hc.actual⟩
    case readIdentities => exact fun _ => hc.actual
    case confirm        => exact ⟨h.actual, h.preassigned⟩
    all_goals exact h
  case revoke phase sessionId hp _ hs =>
    have ha : (row.sessionId ≠ some target.sessionId → row.actualStopConfirmed = false) →
        sessionId ≠ some target.sessionId → row.actualStopConfirmed = false := by
      intro h hn
      obtain rfl | ⟨hs, _⟩ := hs
      · exact h hn
      · exact b.not_actual hs
    cases point
    case markStopping =>
      refine ⟨?_, ha h.right⟩
      obtain rfl | rfl := hp <;> simp
    case readIdentities => exact ha h
    case confirm        => exact ⟨h.actual, h.preassigned⟩
    all_goals exact h
  all_goals contradiction

theorem quarantine_edits : Edits t none false ledger ledger.quarantine where
  kept {id row} hl := by
    rw [quarantine, Table.lookup_update, hl]
    cases hu : row.unresolved
    case false => exact ⟨row, by simp [hu], .inl rfl⟩
    case true =>
      refine ⟨_, by simp [hu]; rfl, .inr <| .revoke (.inr rfl) hu ?_⟩
      cases hs : row.sessionId
      case none   => exact .inr ⟨rfl, rfl⟩
      case some s => exact .inl rfl
  added hl hl' := by simp [quarantine, Table.lookup_update, hl] at hl'

end Ledger

namespace MediaTask

variable {t t' : List MediaObservation} {ledger ledger' : Ledger} {task : MediaTask} {r : Outcome}

theorem StopPoint.Holds.append {target : StopTarget} {row : MediaOperation} {point : StopPoint}
    (h : point.Holds t target row) : point.Holds (t ++ t') target row := by
  cases point
  case confirmActual   => exact ⟨h.left, h.right.left, h.right.right.append⟩
  case stopPreassigned => exact ⟨h.left, h.right.left, h.right.right.append⟩
  case confirm         => exact MediaOperation.AllStopped.append h
  all_goals exact h

theorem Backed.append (b : task.Backed t ledger) : task.Backed (t ++ t') ledger := by
  cases task
  case stop =>
    intro hr
    have ⟨row, hl, ht, hh⟩ := b hr
    exact ⟨row, hl, ht, StopPoint.Holds.append hh⟩
  all_goals exact b

-- A task keeps what it relies on while another task writes to the ledger.
theorem Backed.edits {creates : Option CreateCall} {exclusive : Bool} (hl : ledger.Backed t)
    (b : task.Backed t ledger) (e : Ledger.Edits t creates exclusive ledger ledger')
    (hc : ∀ {c c'}, creates = some c → task.creates = some c' → c.operationId ≠ c'.operationId)
    (hx : task.exclusive = true → exclusive = false) : task.Backed t ledger' := by
  have hf : ∀ {c}, task.creates = some c →
      (∃ row, AList.lookup c.operationId ledger = some row ∧ c.InFlight row) →
      ∃ row, AList.lookup c.operationId ledger' = some row ∧ c.InFlight row := by
    rintro c ht ⟨row, hr, h⟩
    obtain ⟨row', hr', rfl | e⟩ := e.kept hr
    · exact ⟨_, hr', h⟩
    · exact ⟨_, hr', e.inFlight h fun hc' => hc hc' ht⟩
  cases task
  case allocating | allocated | allocationFailed => exact hf rfl b
  case stop target point rest =>
    intro hp
    have ⟨row, hr, ht, hh⟩ := b hp
    obtain ⟨row', hr', rfl | e⟩ := e.kept hr
    · exact ⟨_, hr', ht, hh⟩
    · obtain rfl := hx (by cases point <;> first | rfl | cases hp)
      exact ⟨_, hr', e.tracks ht, e.holds (hl hr) hh⟩
  all_goals trivial

-- What a task writes is an edit, because of what it relies on.
theorem Move.edits (hb : ledger.Backed t) (b : task.Backed t ledger) (m : Move ledger task r) :
    Ledger.Edits t task.creates task.exclusive ledger r.ledger := by
  cases m
  case admitted hl _ hs   => exact .of_sets_new hl ⟨.inl rfl, rfl, rfl, rfl⟩ hs
  case tombstoned hl hs   => exact .of_sets_new hl ⟨.inr rfl, rfl, rfl, rfl⟩ hs
  case failed c _ row _ _ hl _ hn hs _ =>
    obtain ⟨row', hl', h⟩ := b
    obtain rfl : row = row' := by simpa [hl] using hl'
    refine .of_sets hl (.create rfl rfl h (by simp) (by simp) fun hv => ?_) hs
    simp [(hb hl).not_verified hn] at hv
  case mismatched c _ row _ _ _ hl ho hs =>
    obtain ⟨row', hl', h⟩ := b
    obtain rfl : row = row' := by simpa [hl] using hl'
    refine .of_sets hl (.create rfl rfl h (by simp) (by simp) fun hv => ?_) hs
    simp [h.verified hv, Phase.open] at ho
  case activated c _ row _ _ hl hp hs =>
    obtain ⟨row', hl', h⟩ := b
    obtain rfl : row = row' := by simpa [hl] using hl'
    refine .of_sets hl (.create rfl rfl h (by simp) (fun _ => hp) fun hv => ?_) hs
    simp [h.verified hv] at hp
  case revoked c sessionId row' _ _ hr hp hw hs =>
    obtain ⟨row, hl, h⟩ := b
    obtain rfl := hw hl h.generation
    refine .of_sets hl (.create rfl rfl h (by simp) (by simp) fun hv => ?_) hs
    -- The row was stopped in the meantime, so its session is the preassigned one.
    obtain ⟨s, hs, _⟩ := (hb hl).verified hv
    have hq := h.session.resolve_left (by simp [hs])
    have he : s = sessionId := by simpa [← h.preassigned, ← hq, hs] using hr
    rw [hs, he]
  case cancelled row phase sessionId _ _ hl hp hs hn hw _ =>
    refine .of_sets hl (.revoke hp ?_ (.inl ?_)) hw
    · exact MediaOperation.unresolved_iff.mpr hn
    · obtain rfl | ⟨hc, rfl⟩ := hs
      · rfl
      · exact ((hb hl).creating hc).symm
  case markedUncertain =>
    obtain ⟨_, _, _, h⟩ := b rfl
    exact h.elim
  case markedStopping target rest row' _ _ _ hw hs =>
    obtain ⟨row, hl, ht, hn, ha⟩ := b rfl
    obtain rfl := hw hl ht.generation
    refine .of_sets hl (.mark rfl (.inl rfl) hn ?_) hs
    by_cases h : row.sessionId = some target.sessionId
    · exact .inl h
    · exact .inr ⟨ht.session.resolve_left h, ha h⟩
  case confirmedActual hl hg hp hs hw =>
    obtain ⟨row', hl', ht, hq, hn, ha⟩ := b rfl
    obtain rfl := Option.some.inj (hl.symm.trans hl')
    exact .of_sets hl (.confirmActual rfl hp hs hq hn (hg ▸ ha)) hw
  case failedStop hl hp hs hw =>
    refine .of_sets hl ?_ hw
    rw [hs]
    exact .mark rfl (.inr rfl) (by simp [hp]) (.inl hs)
  case confirmed hl hg hp hs hw =>
    obtain ⟨row', hl', ht, ha⟩ := b rfl
    obtain rfl := Option.some.inj (hl.symm.trans hl')
    exact .of_sets hl (.confirm rfl hp hs ha) hw
  all_goals exact .refl

theorem stopAll_backed {targets : List StopTarget} {task : MediaTask} (h : stopAll targets = some task) :
    task.Backed t ledger := by
  cases targets <;> cases h
  intro hr
  cases hr

theorem acquire_backed {next : Option MediaTask}
    (h : next.all fun task => task matches .stop _ .acquire _) (ht : next = some task) :
    task.Backed t ledger := by
  subst ht
  cases task
  case stop point _ =>
    cases point
    case acquire => intro hr; cases hr
    all_goals cases h
  all_goals cases h

-- A task hands on what its next step relies on.
theorem Move.next (hb : ledger.Backed t) (b : task.Backed t ledger) (m : Move ledger task r)
    {task' : MediaTask} (h : r.task = some task') : task'.Backed (t ++ r.seen) r.ledger := by
  cases m
  case admitted c _ _ _ hs => 
    cases h
    refine ⟨_, (hs _).trans (if_pos rfl), rfl, rfl, .inl rfl, ?_, rfl, ?_⟩ <;> simp
  case allocated | allocationRaised => 
    cases h
    exact b
  case failed ht            => exact acquire_backed ht h
  case failedUnrecorded ht  => exact acquire_backed ht h
  case cancelled ht         => exact acquire_backed ht h
  case mismatched | revoked => cases h; intro hr; cases hr
  case reconciled           => exact stopAll_backed h
  case readStopped hl hg hs hp =>
    cases h
    have hv := (hb hl).stopped hp |>.resolve_left (by simp [hs])
    exact fun _ => ⟨_, hl, ⟨hg, .inl hs⟩, hv⟩
  case readOpen hl hg hs hp =>
    cases h
    exact fun _ => ⟨_, hl, ⟨hg, .inl hs⟩, hp, absurd hs⟩
  case verified => exact stopAll_backed h
  case unverified hl hv =>
    have ⟨_, hl', _, hh⟩ := b rfl
    obtain rfl := Option.some.inj (hl.symm.trans hl')
    simp [StopPoint.Holds, hv] at hh
  case markedUncertain => exact (b rfl).choose_spec.right.right.elim
  case reread          => exact (b rfl).choose_spec.right.right.elim
  case markedStopping target rest row' _ _ _ hw hs =>
    cases h
    have ⟨row, hl, ht, _⟩ := b rfl
    obtain rfl := hw hl ht.generation
    exact fun _ => ⟨_, (hs _).trans (if_pos rfl), ⟨ht.generation, .inl rfl⟩, absurd rfl⟩
  case identified hl hg =>
    cases h
    have ⟨row, hl', ht, _⟩ := b rfl
    obtain rfl := Option.some.inj (hl.symm.trans hl')
    exact fun _ => ⟨_, hl, ht, rfl⟩
  case identifiedConfirmed target rest row preassigned hl hg ha hq hn =>
    cases h
    have ⟨row', hl', ht, hh⟩ := b rfl
    obtain rfl := Option.some.inj (hl.symm.trans hl')
    have hs : row.sessionId = some target.sessionId := by
      by_contra hs
      simp [hh hs] at ha
    have ⟨s, hs', hc⟩ := (hb hl).actual ha
    obtain rfl : target.sessionId = s := by simpa [hs] using hs'
    rw [hg] at hc
    exact fun _ => ⟨_, hl, ht, hq, hn, hc.append⟩
  case stoppedOnly target rest preassigned receipt hv hp =>
    cases h
    obtain ⟨row, hl, ht, rfl⟩ := b rfl
    have ha : Accepted (t ++ [.stopAnswered target receipt]) target := ⟨receipt, by simp, hv⟩
    exact fun _ => ⟨_, hl, ht, ht.generation ▸ ha, fun hq hn => absurd (hp hq) hn⟩
  case stoppedActual target rest preassigned receipt hv hn =>
    cases h
    have ⟨row, hl, ht, hq⟩ := b rfl
    exact fun _ => ⟨_, hl, ht, hq, hn, receipt, by simp, hv⟩
  case confirmedActual hl hg hp hs hw =>
    cases h
    have ⟨row', hl', ht, hq, hn, ha⟩ := b rfl
    obtain rfl := Option.some.inj (hl.symm.trans hl')
    have ht' := (hw _).trans (if_pos rfl)
    exact fun _ => ⟨_, ht', ⟨ht.generation, ht.session⟩, hq, hn, ha.append⟩
  case stoppedPreassigned target rest preassigned receipt hv =>
    cases h
    have ⟨row, hl, ht, hq, _, ha⟩ := b rfl
    refine fun _ => ⟨_, hl, ht, ?_, fun hq' _ => ?_⟩
    · rw [ht.generation]
      exact ha.append
    · obtain rfl := Option.some.inj (hq.symm.trans hq')
      rw [ht.generation]
      exact ⟨receipt, by simp, hv⟩
  case identifiedInvalid | failing => cases h; intro hr; cases hr
  case confirmed => exact stopAll_backed h
  all_goals cases h

end MediaTask
