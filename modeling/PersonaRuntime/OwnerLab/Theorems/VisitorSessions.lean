import PersonaRuntime.OwnerLab.Theorems.VisitorSteps

namespace VisitorSessionManager

open VisitorInstruction VisitorObservation

abbrev Threads := Threaded VisitorSessionManager VisitorInstruction

variable {sha256 : Digest} {s s' : Threads} {e : ThreadEvent VisitorCall VisitorEnvironment}
  {t o : List VisitorObservation}

theorem step_acts (h : (program sha256).machine.step s e = some (s', o)) :
    ∃ after, s.shared.Acts (e.next s).toList s'.shared after o ∧
      Program.Advance s s' (e.next s).toList after := by
  have ⟨after, he, ha⟩ := Program.step_effect h
  refine ⟨after, ?_, ha⟩
  generalize (e.next s).toList = before at he
  cases he
  case enter he   => exact enter_acts he
  case execute he => exact execute_acts he

-- The flags and the transaction agree with the trace and with what the threads have left to execute.
structure Balanced (t : List VisitorObservation) (s : Threads) : Prop where
  accounted   : s.shared.Accounted
  fastRevoked : ∀ v,
    t.count (.fastRevoked v) + s.pending.count (.fastRevoke v) = (s.shared.revoked v).toNat
  stopped     : ∀ v, t.count (.stopped v) + s.pending.count (.stop v) = (s.shared.stopped v).toNat
  transaction : s.pending.countP (·.holdsTransaction) = s.shared.transaction.toNat

theorem Balanced.step (h : Balanced t s) (hs : (program sha256).machine.step s e = some (s', o)) :
    Balanced (t ++ o) s' := by
  have ⟨after, a, ⟨others, hp, hp'⟩, _⟩ := step_acts hs
  have b := a.balance
  refine ⟨a.accounted h.accounted, fun v => ?fastRevoked, fun v => ?stopped, ?transaction⟩
  case fastRevoked =>
    have hb := b.fastRevoked v
    have hv := h.fastRevoked v
    rw [hp.count_eq, List.count_append] at hv
    rw [hp'.count_eq, List.count_append, List.count_append]
    omega
  case stopped =>
    have hb := b.stopped v
    have hv := h.stopped v
    rw [hp.count_eq, List.count_append] at hv
    rw [hp'.count_eq, List.count_append, List.count_append]
    omega
  case transaction =>
    have ht := h.transaction
    rw [hp.countP_eq, List.countP_append] at ht
    have hb := b.transaction (by omega)
    rw [hp'.countP_eq, List.countP_append]
    omega

-- The permits that were minted before a withdrawal are outdated and do not get an egress after it.
structure Fenced (t : List VisitorObservation) (file : Option RawPersona) : Prop where
  minted    : ∀ {permit}, .minted permit ∈ t →
    RawPersona.Admits file permit ∨ RawPersona.Outdates file permit
  withdrawn : ∀ {t₁ t₂ permit}, t = t₁ ++ .withdrawn :: t₂ → .minted permit ∈ t₁ →
    RawPersona.Outdates file permit ∧ ∀ v, .egress v permit ∉ t₂

theorem not_outdates_of_admits {file : Option RawPersona} {permit : VisitorPermit}
    (h : RawPersona.Admits file permit) : ¬RawPersona.Outdates file permit := by
  rintro ⟨state', hs', ho⟩
  have ⟨state, hs, ha⟩ := h
  obtain rfl := Option.some.inj (hs.symm.trans hs')
  exact absurd ho (by simp [CanonicalPublicationSnapshot.Outdates, ha.epoch])

theorem Fenced.step (h : Fenced t s.shared.file)
    (hs : (program sha256).machine.step s e = some (s', o)) : Fenced (t ++ o) s'.shared.file := by
  have ⟨after, a, _⟩ := step_acts hs
  obtain ⟨hf, hw, hm, he⟩ | ⟨ho, hu⟩ := a.file_cases
  case inl =>
    rw [hf]
    obtain rfl | ⟨x, rfl, _⟩ := a.observes
    case inl => simpa using h
    refine ⟨fun hx => ?minted, fun ht hx => ?withdrawn⟩
    case minted =>
      obtain hx | rfl : _ ∨ _ = x := by simpa using hx
      · exact h.minted hx
      · exact .inl (hm _ (by simp))
    case withdrawn =>
      obtain ⟨_, _, rfl⟩ | ⟨t₂', rfl, rfl⟩ := Machine.split_snoc ht
      · simp at hw
      · have ⟨hd, hn⟩ := h.withdrawn rfl hx
        refine ⟨hd, fun v hv => ?_⟩
        obtain hv | rfl : _ ∨ _ = x := by simpa using hv
        · exact hn v hv
        · exact not_outdates_of_admits (he v _ (by simp)) hd
  case inr =>
    obtain rfl | rfl := ho
    case inl =>
      rw [List.append_nil]
      exact ⟨fun hx => .inr (hu (h.minted hx)), fun ht hx =>
        ⟨hu (.inr (h.withdrawn ht hx).left), (h.withdrawn ht hx).right⟩⟩
    refine ⟨fun hx => .inr (hu (h.minted (by simpa using hx))), fun ht hx => ?_⟩
    obtain ⟨rfl, rfl, _⟩ | ⟨t₂', rfl, rfl⟩ := Machine.split_snoc ht
    · exact ⟨hu (h.minted hx), by simp⟩
    · have ⟨hd, hn⟩ := h.withdrawn rfl hx
      exact ⟨hu (.inr hd), by simpa using hn⟩

-- No thread finds a visitor revoked before the thread that has revoked it has run its `fast_revoke`.
def keepsOrder (s : Threads) (e : ThreadEvent VisitorCall VisitorEnvironment) : Bool :=
  match e.next s with
  | some (.swapRevoked v) => .fastRevoke v ∉ s.pending
  | _                     => true

structure InOrder (t : List VisitorObservation) (s : Threads) : Prop where
  threads  : ∀ {thread}, thread ∈ s.threads → Ordered (.fastRevoked · ∈ t) thread
  pending  : ∀ {v}, v ∈ collected t → ∃ sessions, .release sessions ∈ s.pending ∧ v ∈ sessions
  stopped  : ∀ {t₁ v t₂}, t = t₁ ++ .stopped v :: t₂ → .fastRevoked v ∈ t₁
  released : ∀ {t₁ t₂ v}, t = t₁ ++ .released :: t₂ → v ∈ collected t₁ → .fastRevoked v ∈ t₁

-- The thread that holds the transaction is the only one that will release it.
theorem Balanced.release_unique (h : Balanced t s) {sessions sessions' : List VisitorAddress}
    {others : List VisitorInstruction} (hp : s.pending.Perm (.release sessions :: others))
    (hm : .release sessions' ∈ s.pending) : sessions' = sessions := by
  obtain he | hm := List.mem_cons.mp (hp.mem_iff.mp hm)
  case inl => simpa using he
  case inr =>
    have ht := h.transaction
    have hc : 0 < others.countP (·.holdsTransaction) := List.countP_pos_iff.mpr ⟨_, hm, rfl⟩
    rw [hp.countP_eq, List.countP_cons_of_pos rfl] at ht
    have := Bool.toNat_le s.shared.transaction
    omega

theorem InOrder.step (h : InOrder t s) (b : Balanced t s) (hk : keepsOrder s e = true)
    (hs : (program sha256).machine.step s e = some (s', o)) : InOrder (t ++ o) s' := by
  have ⟨after, a, ⟨others, hp, hp'⟩, rest, hr, ht⟩ := step_acts hs
  have hr : Ordered (.fastRevoked · ∈ t) ((e.next s).toList ++ rest) := by
    obtain hr | hr := hr
    · exact h.threads hr
    · exact hr ▸ trivial
  have hd {v} (hb : (e.next s).toList = [.swapRevoked v]) (hv : s.shared.revoked v = true) :
      .fastRevoked v ∈ t := by
    have hn : e.next s = some (.swapRevoked v) := by simpa using hb
    have hf : s.pending.count (.fastRevoke v) = 0 := by
      simpa [keepsOrder, hn, List.count_eq_zero] using hk
    have hc := b.fastRevoked v
    rw [hf, hv] at hc
    exact List.count_pos_iff.mp (by simp_all)
  refine ⟨fun hm => ?threads, fun hv => ?pending, ?stopped, ?released⟩
  case threads =>
    simp only [List.mem_append]
    obtain hm | rfl := ht hm
    · exact (h.threads hm).mono fun v => .inl
    · exact a.ordered hd hr
  case pending =>
    obtain ⟨_, _, rfl⟩ | ⟨hn, _, hc⟩ := a.collected_cases (t := t)
    case inl => simp [collected_append, collect] at hv
    obtain hv | ⟨sessions, hm, hv⟩ := hc hv
    · obtain ⟨sessions, hm, hv⟩ := h.pending hv
      have hm := (List.mem_append.mp (hp.mem_iff.mp hm)).resolve_left (hn sessions)
      exact ⟨sessions, hp'.mem_iff.mpr (by simp [hm]), hv⟩
    · exact ⟨sessions, hp'.mem_iff.mpr (by simp [hm]), hv⟩
  case stopped =>
    obtain rfl | ⟨x, rfl, hx⟩ := a.observes
    case inl =>
      rw [List.append_nil]
      exact h.stopped
    intro t₁ v t₂ he
    obtain ⟨_, rfl, rfl⟩ | ⟨t₂', rfl, rfl⟩ := Machine.split_snoc he
    · have hb : (e.next s).toList = [.stop v] := hx
      rw [hb] at hr
      exact hr.left v (by simp [needs])
    · exact h.stopped rfl
  case released =>
    obtain rfl | ⟨x, rfl, _⟩ := a.observes
    case inl =>
      rw [List.append_nil]
      exact h.released
    intro t₁ t₂ v he hv
    obtain ⟨_, rfl, rfl⟩ | ⟨t₂', rfl, rfl⟩ := Machine.split_snoc he
    case inr => exact h.released rfl hv
    obtain ⟨sessions, hb, _⟩ | ⟨_, hn, _⟩ := a.collected_cases (t := t₁)
    case inr => simp at hn
    rw [hb] at hp hr
    obtain ⟨sessions', hm, hv⟩ := h.pending hv
    obtain rfl := b.release_unique hp hm
    exact hr.left v hv

-- Whatever a run has shown, the visitors are cut off by the owner.
structure CutOff (sha256 : Digest) (t : List VisitorObservation) (s : Threads) : Prop where
  -- A permit that was minted before the publication was withdrawn does not get an egress after it.
  egress           : ∀ {t₁ t₂ permit}, t = t₁ ++ .withdrawn :: t₂ → .minted permit ∈ t₁ →
    ∀ v, .egress v permit ∉ t₂
  fastRevoked_once : ∀ v, t.count (.fastRevoked v) ≤ 1
  stopped_once     : ∀ v, t.count (.stopped v) ≤ 1
  stopped          : ∀ {t₁ v t₂}, t = t₁ ++ .stopped v :: t₂ → .fastRevoked v ∈ t₁
  -- What was in the registry at the drain is revoked before the transaction is released.
  drained          : ∀ {e s' order}, (program sha256).machine.step s e = some (s', [.drained order]) →
    order.Perm s.shared.registered
  released         : ∀ {t₁ t₂ v}, t = t₁ ++ .released :: t₂ → v ∈ collected t₁ → .fastRevoked v ∈ t₁
  permits          : ∀ v, s.shared.permits.count v ≤ 1
  active           : ∀ {v}, v ∈ s.shared.permits → s.shared.active v = 1
  capacity         : s.shared.sessions.entries.length ≤ maxActiveVisitors

theorem run_balanced : ((program sha256).machine.Run t s) → Balanced t s := by
  refine Machine.Run.invariant (fun {s} ⟨hs, ht⟩ => ?_) Balanced.step
  have hs : s.shared = .new s.shared.file := hs
  have hp : s.pending = [] := by simp [Threaded.pending, ht]
  generalize s.shared.file = file at hs
  refine ⟨⟨fun v => ?_, fun v => ?_, ?_⟩, fun v => ?_, fun v => ?_, ?_⟩
  all_goals
    rw [hs]
    simp [hp, new, active, revoked, stopped, view]

theorem run_fenced : ((program sha256).machine.Run t s) → Fenced t s.shared.file :=
  Machine.Run.invariant (P := fun t (s : Threads) => Fenced t s.shared.file)
    (fun _ => ⟨by simp, by simp⟩) Fenced.step

theorem run_guarded_inOrder (r : ((program sha256).machine.guarded keepsOrder).Run t s) : InOrder t s := by
  have h : Balanced t s ∧ InOrder t s := by
    apply r.invariant (P := fun t s => Balanced t s ∧ InOrder t s)
    case hi =>
      intro s hi
      have r₀ : (program sha256).machine.Run [] s := .intro hi .refl
      refine ⟨run_balanced r₀, ?_, ?_, ?_, ?_⟩
      all_goals simp [hi.right, collected]
    case h =>
      intro t s₁ e s₂ o h hs
      obtain ⟨hk, hs⟩ := Machine.guarded_step_iff.mp hs
      exact ⟨h.left.step hs, h.right.step h.left hk hs⟩
  exact h.right

theorem run_cutOff (r : ((program sha256).machine.guarded keepsOrder).Run t s) : CutOff sha256 t s := by
  have b := run_balanced r.of_guarded
  have f := run_fenced r.of_guarded
  have i := run_guarded_inOrder r
  refine ⟨fun ht hm => (f.withdrawn ht hm).right, fun v => ?fastRevoked, fun v => ?stopped, i.stopped,
    fun hs => ?drained, i.released, fun v => ?permits, fun {v} hv => ?active, b.accounted.capacity⟩
  case fastRevoked =>
    have hv := b.fastRevoked v
    have hr := Bool.toNat_le (s.shared.revoked v)
    omega
  case stopped =>
    have hv := b.stopped v
    have hs := Bool.toNat_le (s.shared.stopped v)
    omega
  case drained =>
    have ⟨_, a, _⟩ := step_acts hs
    simpa [Acts.Origin] using a.observes
  case permits => exact b.accounted.permits v ▸ b.accounted.active v
  case active =>
    have hc := b.accounted.permits v
    have ha := b.accounted.active v
    have hp := List.count_pos_iff.mpr hv
    omega

-- Everything is available, and the registry has at most one session.
def available (order : List VisitorAddress) : VisitorEnvironment where
  readable := true
  clock    := .ok 0
  random   := zeros
  outcome  := .committed
  order    := order

-- The hexadecimal form of 32 zero bytes is the token of the owner and of the visitors.
def zeroToken : String :=
  hex (List.replicate 32 0)

def publishedRecord : PersistedPersonaV2 where
  schemaVersion := storeSchemaV2
  snapshot      := ⟨"persona", 2, []⟩
  workspace     := some {
    ownerId            := hex (List.replicate 16 0)
    ownerTokenSha256   := hashSecret zeroDigest zeroToken
    publication        := some ⟨"publication", hex (List.replicate 16 0), "persona", 2, .published, 2, false⟩
    visitorTokenSha256 := some (hashSecret zeroDigest zeroToken) }

-- The process starts with a published Persona.
def published : Threads where
  shared  := .new (some (.persisted publishedRecord))
  threads := []

-- A session is opened, has an egress and is stopped by the pause.
theorem run_cutOff_paused : ∃ t s, ((program zeroDigest).machine.guarded keepsOrder).Run t s ∧
    t.contains (.stopped 0) = true ∧ CutOff zeroDigest t s := by
  have ⟨t, s, r, hs⟩ := Machine.Run.exists_of_replay
    (m := (program zeroDigest).machine.guarded keepsOrder) (p := (·.contains (.stopped 0))) published
    [.enter (.open zeroToken) (available []), .resume 0 (available []), .resume 0 (available []),
      .resume 0 (available []), .resume 0 (available []),
      .enter (.beginProviderEgress zeroToken) (available []), .resume 1 (available []),
      .enter (.owner (.pauseAndCollectRevocations zeroToken)) (available []),
      .resume 2 (available [0]), .resume 2 (available []), .resume 2 (available []),
      .resume 2 (available []), .resume 2 (available []), .resume 2 (available []),
      .resume 2 (available [])] ⟨rfl, rfl⟩ (by decide +kernel)
  exact ⟨t, s, r, hs, run_cutOff r⟩

-- A trace that ends with the release of a transaction before the `fast_revoke` of the drained session.
def releasedLate (t : List VisitorObservation) : Bool :=
  t.getLast? = some .released && collected t.dropLast = [0] && !t.contains (.fastRevoked 0)

-- The session is admitted before a pause and inserted after it. Its `open` revokes it and is about to
-- run its `fast_revoke`, when the owner publishes and pauses again. The second pause finds the session
-- revoked and releases the transaction.
theorem not_cutOff_late : ¬∀ t s, (program zeroDigest).machine.Run t s → CutOff zeroDigest t s := by
  intro h
  have ⟨t, s, r, hl⟩ := Machine.Run.exists_of_replay (m := (program zeroDigest).machine)
    (p := releasedLate) published
    [.enter (.open zeroToken) (available []),
      .enter (.owner (.pauseAndCollectRevocations zeroToken)) (available []),
      .resume 1 (available []), .resume 1 (available []), .resume 0 (available []),
      .resume 0 (available []), .resume 0 (available []), .resume 0 (available []),
      .enter (.owner (.workspace (.publish zeroToken 2 true zeros))) (available []),
      .enter (.owner (.pauseAndCollectRevocations zeroToken)) (available []),
      .resume 3 (available [0]), .resume 3 (available []), .resume 3 (available [])] ⟨rfl, rfl⟩
    (by decide +kernel)
  simp only [releasedLate, Bool.and_eq_true, decide_eq_true_eq] at hl
  have ⟨⟨hr, hc⟩, hf⟩ := hl
  have ht : t = t.dropLast ++ [.released] := (List.dropLast_append_getLast? _ hr).symm
  have hm := (h t s r).released ht (v := 0) (by simp [hc])
  have hm : .fastRevoked 0 ∈ t := List.mem_of_mem_dropLast hm
  simp [hm] at hf

end VisitorSessionManager
