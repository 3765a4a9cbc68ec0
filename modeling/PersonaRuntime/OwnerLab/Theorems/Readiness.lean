import PersonaRuntime.OwnerLab.Readiness

namespace PersonaReadiness

variable {r : PersonaReadiness} {m m' : Modality} {id : Option PreparationJobId} {readiness : ModalityReadiness}

@[simp]
theorem modality_setModality : (r.setModality readiness m).modality m = readiness := by
  cases m <;> rfl

@[simp]
theorem modality_setModality_of_ne (h : m' ≠ m) : (r.setModality readiness m).modality m' = r.modality m' := by
  cases m <;> cases m' <;> first | rfl | exact absurd rfl h

@[simp]
theorem modality_setActiveJob : (r.setActiveJob id m).modality m' = r.modality m' := by
  cases m <;> cases m' <;> rfl

@[simp]
theorem activeJob_setModality : (r.setModality readiness m).activeJob m' = r.activeJob m' := by
  cases m <;> cases m' <;> rfl

@[simp]
theorem activeJob_setActiveJob (h : m ≠ .text) : (r.setActiveJob id m).activeJob m = id := by
  cases m <;> first | rfl | exact absurd rfl h

@[simp]
theorem activeJob_setActiveJob_of_ne (h : m' ≠ m) : (r.setActiveJob id m).activeJob m' = r.activeJob m' := by
  cases m <;> cases m' <;> first | rfl | exact absurd rfl h

@[simp]
theorem personaId_setModality : (r.setModality readiness m).personaId = r.personaId := by
  cases m <;> rfl

@[simp]
theorem personaId_setActiveJob : (r.setActiveJob id m).personaId = r.personaId := by
  cases m <;> rfl

@[simp]
theorem personaVersion_setModality : (r.setModality readiness m).personaVersion = r.personaVersion := by
  cases m <;> rfl

@[simp]
theorem personaVersion_setActiveJob : (r.setActiveJob id m).personaVersion = r.personaVersion := by
  cases m <;> rfl

theorem setModality_modality : r.setModality (r.modality m) m = r := by
  cases m <;> rfl

-- A job is the one that the readiness takes evidence from.
structure Tracks (r : PersonaReadiness) (job : PreparationJob) : Prop where
  personaId      : job.personaId = r.personaId
  personaVersion : job.personaVersion = r.personaVersion
  media          : job.modality ≠ .text
  active         : r.activeJob job.modality = some job.id

theorem startPreparation_run (id : PreparationJobId) (hm : m ≠ .text) (hr : r.modality m ≠ .ready)
    (ha : r.activeJob m = none) :
    (startPreparation id m).run r =
      .ok (r.bound id m) ((r.setActiveJob (some id) m).setModality .preparing m) := by
  cases m
  case text => exact absurd rfl hm
  all_goals simp [startPreparation, hr, ha, bound, EStateM.run_bind, EStateM.run_get, EStateM.run_modify]

theorem Tracks.withState {job : PreparationJob} (h : r.Tracks job) (next : PreparationJobState) :
    r.Tracks { job with state := next } :=
  ⟨h.personaId, h.personaVersion, h.media, h.active⟩

theorem Tracks.applyJob {job : PreparationJob} (h : r.Tracks job) :
    (PersonaReadiness.applyJob job).run r =
      .ok () (if (evidence job.state).2 then
        (r.setModality (evidence job.state).1 job.modality).setActiveJob none job.modality
      else
        r.setModality (evidence job.state).1 job.modality) := by
  simp [PersonaReadiness.applyJob, h.personaId, h.personaVersion, h.media, h.active]
  split <;> rfl

structure Initial (r : PersonaReadiness) : Prop where
  text      : r.text = .ready
  notReady  : ∀ m ≠ .text, r.modality m = .notReady
  activeJob : ∀ m, r.activeJob m = none

theorem exists_fromReviewedProfile {profile : PersonaProfile} (h : profile.captureState = .reviewed) :
    ∃ r, fromReviewedProfile profile = .ok r ∧ r.Initial := by
  refine ⟨_, by rw [fromReviewedProfile, if_neg (not_not.mpr h)], rfl, fun m hm => ?_, fun m => ?_⟩
  · cases m <;> first | rfl | exact absurd rfl hm
  · cases m <;> rfl

theorem initial {profile : PersonaProfile} (h : fromReviewedProfile profile = .ok r) : r.Initial := by
  rw [fromReviewedProfile] at h
  split at h
  case isTrue  => cases h
  case isFalse hn =>
    obtain ⟨r', hr, hi⟩ := exists_fromReviewedProfile (not_not.mp hn)
    rw [fromReviewedProfile, if_neg hn] at hr
    obtain rfl := Except.ok.inj (h.symm.trans hr)
    exact hi

end PersonaReadiness

namespace LabReadinessState

variable {s s' : LabReadinessState} {r : PersonaReadiness} {m m' : Modality} {job : PreparationJob}
variable {slot : Option PreparationJob}

@[simp]
theorem job_setJob (h : m ≠ .text) : (s.setJob slot m).job m = slot := by
  cases m <;> first | rfl | exact absurd rfl h

@[simp]
theorem job_setJob_of_ne (h : m' ≠ m) : (s.setJob slot m).job m' = s.job m' := by
  cases m <;> cases m' <;> first | rfl | exact absurd rfl h

@[simp]
theorem readiness_setJob : (s.setJob slot m).readiness = s.readiness := by
  cases m <;> rfl

@[simp]
theorem jobCounter_setJob : (s.setJob slot m).jobCounter = s.jobCounter := by
  cases m <;> rfl

@[simp]
theorem setJob_setJob {slot' : Option PreparationJob} : (s.setJob slot m).setJob slot' m = s.setJob slot' m := by
  cases m <;> rfl

@[simp]
theorem setJob_job : s.setJob (s.job m) m = s := by
  cases m <;> rfl

section Ids

theorem jobId_eq {name : String} (hm : label m = some name) {n : Nat} (hn : n ≤ u64Max) :
    ∃ id, jobId name n = .ok id ∧ id.asStr = s!"owner-lab-{name}-{n}" := by
  have hl : (Nat.repr n).length ≤ 20 := by
    rw [Nat.length_repr_le_iff (by decide)]
    exact Nat.lt_of_le_of_lt hn (by decide)
  have hc : isBlank s!"owner-lab-{name}-{n}" = false ∧ (s!"owner-lab-{name}-{n}").length ≤ maxCanonicalIdChars := by
    cases m <;> simp only [label, Option.some.injEq, reduceCtorEq] at hm <;> subst hm <;>
      simp [isBlank, maxCanonicalIdChars, toString, String.length_append]
    all_goals
      constructor
      · exact fun ho => absurd ho (by decide)
      · refine Nat.le_trans (Nat.add_le_add_left hl _) (by decide)
  exact ⟨⟨_, hc.1, hc.2⟩, by rw [jobId, CanonicalId.new, dif_pos hc], rfl⟩

theorem repr_inj {n n' : Nat} (h : Nat.toDigits 10 n = Nat.toDigits 10 n') : n = n' := by
  rw [← Nat.ofDigitChars_toDigits (b := 10) (n := n) (by decide) (by decide), h,
    Nat.ofDigitChars_toDigits (by decide) (by decide)]

-- A name that an attempt up to a value of the counter has given to its job.
def Numbered (counter : Nat) (id : PreparationJobId) : Prop :=
  ∃ m name n, label m = some name ∧ n ≤ counter ∧ id.asStr = s!"owner-lab-{name}-{n}"

theorem not_numbered {name : String} {n counter : Nat} {id : PreparationJobId} (hm : label m = some name)
    (hn : counter < n) (hi : id.asStr = s!"owner-lab-{name}-{n}") : ¬Numbered counter id := by
  rintro ⟨m', name', n', hm', hn', hi'⟩
  have he := congrArg String.toList (hi.symm.trans hi')
  cases m <;> simp only [label, Option.some.injEq, reduceCtorEq] at hm <;> subst hm <;>
    cases m' <;> simp only [label, Option.some.injEq, reduceCtorEq] at hm' <;> subst hm' <;>
    simp [toString] at he
  all_goals
    have := repr_inj he
    omega

end Ids

section Runs

-- A slot holds a job as long as its modality is being prepared.
inductive Slot (r : PersonaReadiness) (m : Modality) : Option PreparationJob → Prop
  | empty (idle : r.modality m ≠ .preparing) (inactive : r.activeJob m = none) : Slot r m none
  | held {job : PreparationJob} (preparing : r.modality m = .preparing) (tracks : r.Tracks job) (modality : job.modality = m)
    (state : job.state = .preparing ∨ job.state = .validating) : Slot r m (some job)

-- A state with another readiness and another job for one modality.
def update (s : LabReadinessState) (r : PersonaReadiness) (slot : Option PreparationJob) (m : Modality) :
    LabReadinessState :=
  { s with readiness := some r }.setJob slot m

theorem onReadiness_run {α : Type} {x : PersonaReadiness.Update α} {a : α} {r' : PersonaReadiness}
    (hr : s.readiness = some r) (hx : x.run r = .ok a r') :
    (onReadiness x).run s = .ok a { s with readiness := some r' } := by
  simp only [EStateM.run] at hx
  simp [onReadiness, EStateM.run, hr, hx]

theorem onJob_run {x : PreparationJob.Update Unit} {job' : PreparationJob} (hx : x.run job = .ok () job') :
    (onJob job x).run s = .ok job' s := by
  simp only [EStateM.run] at hx
  simp [onJob, EStateM.run, hx]

theorem attempt_exhausted (hc : s.jobCounter = u64Max) : (attempt m).run s = .error .internal s := by
  have hn : checkedAdd s.jobCounter 1 = none := by
    rw [checkedAdd, hc, if_neg (Nat.not_succ_le_self _)]
  simp only [attempt, EStateM.run_bind, EStateM.run_get, hn, Option.elim_none, EStateM.check_error_run]

theorem attempt_run {name : String} (hm : label m = some name) (hr : s.readiness = some r) (hs : Slot r m none)
    (hn : r.modality m ≠ .ready) (hc : s.jobCounter < u64Max) :
    ∃ id, id.asStr = s!"owner-lab-{name}-{s.jobCounter + 1}" ∧
      (attempt m).run s = .ok () ({ s with jobCounter := s.jobCounter + 1 }.update
        ((r.setActiveJob (some id) m).setModality .preparing m) (some { r.bound id m with state := .preparing }) m) := by
  obtain ⟨id, hid, hstr⟩ := jobId_eq hm (n := s.jobCounter + 1) hc
  have hma : m ≠ .text := by
    rintro rfl
    cases hm
  have hadd : checkedAdd s.jobCounter 1 = some (s.jobCounter + 1) := checkedAdd_eq_some_iff.mpr ⟨hc, rfl⟩
  obtain ⟨-, ha⟩ : r.modality m ≠ .preparing ∧ r.activeJob m = none := by
    cases hs
    case empty hi ha => exact ⟨hi, ha⟩
  have hstart := PersonaReadiness.startPreparation_run id hma hn ha
  have hbegin : PreparationJob.begin.run (r.bound id m) = .ok () { r.bound id m with state := .preparing } := rfl
  have htracks : ((r.setActiveJob (some id) m).setModality .preparing m).Tracks { r.bound id m with state := .preparing } := by
    constructor <;> simp [PersonaReadiness.bound, hma]
  have happly := htracks.applyJob
  refine ⟨id, hstr, ?_⟩
  simp only [attempt, EStateM.run_bind, EStateM.run_get, EStateM.run_modify, hadd, Option.elim_some,
    EStateM.check_ok_run, hm, hid]
  rw [onReadiness_run (s := { s with jobCounter := s.jobCounter + 1 }) hr hstart]
  simp only [onJob_run hbegin]
  rw [onReadiness_run rfl happly]
  simp only [putJob, EStateM.run_modify]
  cases m <;> rfl

theorem keep_readiness (hr : s.readiness = some r) : { s with readiness := some r } = s := by
  rw [← hr]

theorem takeJob_run : (takeJob m).run s = .ok (s.job m) (s.setJob none m) :=
  rfl

theorem beginValidationOne_run (hr : s.readiness = some r) (hs : Slot r m (s.job m)) :
    (beginValidationOne m).run s =
      .ok () (s.setJob ((s.job m).map fun job => { job with state := .validating }) m) := by
  rw [beginValidationOne, EStateM.run_bind, takeJob_run]
  cases hj : s.job m
  case none => rfl
  case some job =>
    rw [hj] at hs
    cases hs
    case held hp ht hm hst =>
      simp only [Option.map_some]
      obtain hst | hst := hst
      · have hbegin : PreparationJob.beginValidation.run job = .ok () { job with state := .validating } := by
          simp [PreparationJob.beginValidation, PreparationJob.transition, PreparationJob.valid, hst]
        have happly := (ht.withState .validating).applyJob
        rw [if_pos (by simp [hst]), EStateM.run_bind, onJob_run hbegin]
        simp only [EStateM.run_bind]
        rw [onReadiness_run (s := s.setJob none m) (by simpa using hr) happly]
        simp only [putJob, EStateM.run_modify, PersonaReadiness.evidence, hm, ← hp]
        rw [if_neg Bool.false_ne_true, PersonaReadiness.setModality_modality,
          keep_readiness (by simpa using hr), setJob_setJob]
      · rw [if_neg (by simp [hst])]
        simp only [putJob, EStateM.run_modify, setJob_setJob]
        rw [← hst]

-- What both ways to end an attempt come to.
theorem settle_run {x : PreparationJob.Update Unit} {next : PreparationJobState} (hr : s.readiness = some r)
    (hx : x.run job = .ok () { job with state := next }) (ht : r.Tracks job)
    (he : (PersonaReadiness.evidence next).2 = true) :
    (settle job x).run s = .ok () { s with
      readiness := some ((r.setModality (PersonaReadiness.evidence next).1 job.modality).setActiveJob none job.modality) } := by
  have happly := (ht.withState next).applyJob
  simp only [he, if_true] at happly
  simp only [settle, EStateM.run_modify, hx, hr, Option.map_some, happly, EStateM.Result.state_ok]

def ended (s : LabReadinessState) (r : PersonaReadiness) (readiness : ModalityReadiness) (m : Modality) :
    LabReadinessState :=
  if (s.job m).isSome then s.update ((r.setModality readiness m).setActiveJob none m) none m else s

theorem setJob_update {r' : PersonaReadiness} :
    { s.setJob none m with readiness := some r' } = s.update r' none m := by
  cases m <;> rfl

theorem setJob_none (hj : s.job m = none) : s.setJob none m = s :=
  hj ▸ setJob_job

theorem finishPending_run (hr : s.readiness = some r) (hs : Slot r m (s.job m)) :
    (finishPending m).run s = .ok () (s.ended r .failed m) := by
  rw [finishPending, EStateM.run_bind, takeJob_run, ended]
  cases hj : s.job m
  case none =>
    rw [setJob_none hj]
    rfl
  case some job =>
    rw [hj] at hs
    cases hs
    case held hp ht hm hst =>
      have hfail : PreparationJob.fail.run job = .ok () { job with state := .failed } := by
        obtain hst | hst := hst <;>
          simp [PreparationJob.fail, PreparationJob.transition, PreparationJob.valid, hst]
      simp only
      rw [if_neg (by obtain hst | hst := hst <;> simp [hst]), settle_run (by simpa using hr) hfail ht rfl,
        setJob_update, hm]
      rfl

theorem cancelOne_run (hr : s.readiness = some r) (hs : Slot r m (s.job m)) :
    (cancelOne m).run s = .ok () (s.ended r .notReady m) := by
  rw [cancelOne, EStateM.run_bind, takeJob_run, ended]
  cases hj : s.job m
  case none =>
    rw [setJob_none hj]
    rfl
  case some job =>
    rw [hj] at hs
    cases hs
    case held hp ht hm hst =>
      have hcancel : PreparationJob.cancel.run job = .ok () { job with state := .cancelled } := by
        obtain hst | hst := hst <;>
          simp [PreparationJob.cancel, PreparationJob.transition, PreparationJob.valid, hst]
      simp only
      rw [settle_run (by simpa using hr) hcancel ht rfl, setJob_update, hm]
      rfl

theorem markReady_run (hma : m ≠ .text) (hr : s.readiness = some r) (hs : Slot r m (s.job m)) :
    (markReady m).run s =
      if r.modality m = .ready then .ok () s
      else if (s.job m).any (·.state = .validating) then
        .ok () (s.update ((r.setModality .ready m).setActiveJob none m) none m)
      else .error .invalidState s := by
  rw [markReady, if_neg hma]
  simp only [EStateM.run_bind, EStateM.run_get, hr]
  split
  case isTrue => rfl
  case isFalse hn =>
    rw [EStateM.run_bind, takeJob_run]
    cases hj : s.job m
    case none =>
      rw [setJob_none hj]
      rfl
    case some job =>
      rw [hj] at hs
      cases hs
      case held hp ht hm hst =>
        simp only [Option.any_some]
        by_cases hv : job.state = .validating
        case pos =>
          have hready : PreparationJob.markReady.run job = .ok () { job with state := .ready } := by
            simp [PreparationJob.markReady, PreparationJob.transition, PreparationJob.valid, hv]
          have happly := (ht.withState .ready).applyJob
          subst hm
          simp only [PersonaReadiness.evidence, if_true] at happly
          rw [if_neg (by simp [hv]), if_pos (by simp [hv]), EStateM.run_bind, onJob_run hready]
          simp only
          rw [onReadiness_run (by simpa using hr) happly, setJob_update]
        case neg =>
          have hback : s.setJob (some job) m = s := hj ▸ setJob_job
          rw [if_pos hv, if_neg (by simp [hv])]
          simp only [EStateM.run_bind, putJob, EStateM.run_modify, setJob_setJob, hback]
          rfl

end Runs

section Changes

def modality (s : LabReadinessState) (m : Modality) : Option ModalityReadiness :=
  s.readiness.map (·.modality m)

def activeJob (s : LabReadinessState) (m : Modality) : Option PreparationJobId :=
  s.readiness.bind (·.activeJob m)

structure Consistent (s : LabReadinessState) : Prop where
  counter : s.jobCounter ≤ u64Max
  unset   : s.readiness = none → ∀ m, s.job m = none
  text    : ∀ r ∈ s.readiness, r.text = .ready
  slots   : ∀ r ∈ s.readiness, ∀ m ≠ .text, Slot r m (s.job m)

inductive ChangeKind
  | begun
  | validating
  | ended
  | ready
deriving DecidableEq

-- What the part of a call that is about one modality does.
inductive Change (m : Modality) : ChangeKind → LabReadinessState → LabReadinessState → Prop
  | unchanged (k : ChangeKind) (s : LabReadinessState) : Change m k s s
  | begun {s : LabReadinessState} {r : PersonaReadiness} {name : String} {id : PreparationJobId}
    (readiness : s.readiness = some r) (media : label m = some name)
    (idle : r.modality m ≠ .ready ∧ r.modality m ≠ .preparing) (counter : s.jobCounter < u64Max)
    (fresh : id.asStr = s!"owner-lab-{name}-{s.jobCounter + 1}") :
    Change m .begun s ({ s with jobCounter := s.jobCounter + 1 }.update
      ((r.setActiveJob (some id) m).setModality .preparing m) (some { r.bound id m with state := .preparing }) m)
  | validating {s : LabReadinessState} {r : PersonaReadiness} (readiness : s.readiness = some r) :
    Change m .validating s (s.setJob ((s.job m).map fun job => { job with state := .validating }) m)
  | ended {s : LabReadinessState} {r : PersonaReadiness} {job : PreparationJob} (end' : ModalityReadiness)
    (readiness : s.readiness = some r) (held : s.job m = some job) (outcome : end' = .failed ∨ end' = .notReady) :
    Change m .ended s (s.update ((r.setModality end' m).setActiveJob none m) none m)
  | ready {s : LabReadinessState} {r : PersonaReadiness} {job : PreparationJob} (readiness : s.readiness = some r)
    (held : s.job m = some job) (validating : job.state = .validating) :
    Change m .ready s (s.update ((r.setModality .ready m).setActiveJob none m) none m)

variable {k : ChangeKind}

theorem Slot.frame {r' : PersonaReadiness} (h : Slot r m slot) (hm : r'.modality m = r.modality m)
    (ha : r'.activeJob m = r.activeJob m) (hi : r'.personaId = r.personaId)
    (hv : r'.personaVersion = r.personaVersion) : Slot r' m slot := by
  cases h
  case empty hi ha' => exact .empty (hm ▸ hi) (ha ▸ ha')
  case held hp ht hj hst =>
    subst hj
    exact .held (hm ▸ hp) ⟨hi ▸ ht.personaId, hv ▸ ht.personaVersion, ht.media, ha ▸ ht.active⟩ rfl hst

@[simp]
theorem update_readiness : (s.update r slot m).readiness = some r := by
  simp [update]

@[simp]
theorem update_job (h : m ≠ .text) : (s.update r slot m).job m = slot := by
  simp [update, h]

@[simp]
theorem update_job_of_ne (h : m' ≠ m) : (s.update r slot m).job m' = s.job m' := by
  cases m' <;> simp [update, h] <;> rfl

@[simp]
theorem update_jobCounter : (s.update r slot m).jobCounter = s.jobCounter := by
  simp [update]

-- A readiness that differs from another one in one modality.
structure Elsewhere (m : Modality) (r r' : PersonaReadiness) : Prop where
  modality       : ∀ m' ≠ m, r'.modality m' = r.modality m'
  activeJob      : ∀ m' ≠ m, r'.activeJob m' = r.activeJob m'
  personaId      : r'.personaId = r.personaId
  personaVersion : r'.personaVersion = r.personaVersion

theorem elsewhere_begun {id : Option PreparationJobId} {readiness : ModalityReadiness} :
    Elsewhere m r ((r.setActiveJob id m).setModality readiness m) := by
  constructor <;> simp +contextual

theorem elsewhere_ended {id : Option PreparationJobId} {readiness : ModalityReadiness} :
    Elsewhere m r ((r.setModality readiness m).setActiveJob id m) := by
  constructor <;> simp +contextual

theorem Consistent.update {r' : PersonaReadiness} (h : Consistent s) (hma : m ≠ .text) (hr : s.readiness = some r)
    (he : Elsewhere m r r') (hs : Slot r' m slot) : Consistent (s.update r' slot m) where
  counter := by simpa using h.counter
  unset hn := by simp at hn
  text r₁ hr₁ := by
    obtain rfl : r' = r₁ := by simpa using hr₁
    exact (he.modality .text hma.symm).trans (h.text r hr)
  slots r₁ hr₁ m' hm' := by
    obtain rfl : r' = r₁ := by simpa using hr₁
    by_cases hmm : m' = m
    case pos =>
      subst hmm
      simpa [hma] using hs
    case neg =>
      rw [update_job_of_ne hmm]
      exact (h.slots r hr m' hm').frame (he.modality m' hmm) (he.activeJob m' hmm) he.personaId he.personaVersion

theorem Slot.validating (h : Slot r m slot) :
    Slot r m (slot.map fun job => { job with state := .validating }) := by
  cases h
  case empty hi ha        => exact .empty hi ha
  case held hp ht hj hst => exact .held hp (ht.withState .validating) hj (.inr rfl)

theorem setJob_eq_update (hr : s.readiness = some r) : s.setJob slot m = s.update r slot m := by
  rw [LabReadinessState.update, keep_readiness hr]

theorem Change.consistent (hma : m ≠ .text) (hc : Change m k s s') (h : Consistent s) : Consistent s' := by
  cases hc
  case unchanged => exact h
  case begun r name id hl hi hr hn hf =>
    have hs : Consistent { s with jobCounter := s.jobCounter + 1 } :=
      ⟨hn, h.unset, h.text, h.slots⟩
    refine hs.update hma hr elsewhere_begun (.held (by simp) ⟨?_, ?_, hma, ?_⟩ rfl (.inl rfl))
    · simp [PersonaReadiness.bound]
    · simp [PersonaReadiness.bound]
    · simp [PersonaReadiness.bound, hma]
  case validating r hr =>
    rw [setJob_eq_update hr]
    exact h.update hma hr ⟨fun _ _ => rfl, fun _ _ => rfl, rfl, rfl⟩ (h.slots r hr m hma).validating
  case ended r job readiness ho hr hj =>
    refine h.update hma hr elsewhere_ended (.empty ?_ ?_)
    · obtain rfl | rfl := ho <;> simp
    · simp [hma]
  case ready r job hv hr hj =>
    refine h.update hma hr elsewhere_ended (.empty ?_ ?_)
    · simp
    · simp [hma]

theorem Elsewhere.others {r' : PersonaReadiness} (he : Elsewhere m r r') (hr : s.readiness = some r) (h : m' ≠ m) :
    (s.update r' slot m).modality m' = s.modality m' ∧ (s.update r' slot m).activeJob m' = s.activeJob m'
      ∧ (s.update r' slot m).job m' = s.job m' := by
  simp [LabReadinessState.modality, LabReadinessState.activeJob, hr, he.modality m' h, he.activeJob m' h, h]

-- The other modalities are left alone.
theorem Change.others (hc : Change m k s s') (h : m' ≠ m) :
    s'.modality m' = s.modality m' ∧ s'.activeJob m' = s.activeJob m' ∧ s'.job m' = s.job m' := by
  cases hc
  case unchanged => exact ⟨rfl, rfl, rfl⟩
  case begun r name id hl hi hr hn hf =>
    exact (elsewhere_begun (r := r)).others (s := { s with jobCounter := s.jobCounter + 1 }) hr h
  case validating r hr            => simp [modality, activeJob, h]
  case ended r job readiness ho hr hj => exact elsewhere_ended.others hr h
  case ready r job hv hr hj           => exact elsewhere_ended.others hr h

theorem Change.counter (hc : Change m k s s') : s.jobCounter ≤ s'.jobCounter := by
  cases hc <;> simp

-- Only one kind of change makes a modality ready, and it finds a job that is being validated.
theorem Change.becomes_ready (hc : Change m k s s') (hn : s.modality m ≠ some .ready) (hr : s'.modality m = some .ready) :
    k = .ready ∧ ∃ job, s.job m = some job ∧ job.state = .validating := by
  cases hc
  case unchanged => exact absurd hr hn
  case begun     => simp [modality] at hr
  case validating => exact absurd (by simpa [modality] using hr) hn
  case ended r job readiness ho hr' hj =>
    obtain rfl | rfl := ho <;> simp [modality] at hr
  case ready r job hv hr' hj => exact ⟨rfl, job, hj, hv⟩

-- A job is named after a value of the counter that no job was named after before.
theorem Change.handed (hma : m ≠ .text) (hc : Change m k s s') {id : PreparationJobId}
    (hi : s'.activeJob m = some id) (hn : s'.activeJob m ≠ s.activeJob m) :
    Numbered s'.jobCounter id ∧ ¬Numbered s.jobCounter id := by
  cases hc
  case unchanged  => exact absurd rfl hn
  case validating => simp [activeJob] at hn
  case ended      => simp [activeJob, hma] at hi
  case ready      => simp [activeJob, hma] at hi
  case begun r name id' hl hid hr hlt hf =>
    obtain rfl : id' = id := by simpa [activeJob, hma] using hi
    exact ⟨⟨m, name, _, hl, by simp, hf⟩, not_numbered hl (Nat.lt_succ_self _) hf⟩

end Changes

section Calls

def Both (k : ChangeKind) (s s' : LabReadinessState) : Prop :=
  ∃ s₁, Change .voice k s s₁ ∧ Change .video k s₁ s'

-- What a call does to a consistent state.
inductive Effect : LabReadinessState → ReadinessCall → EStateM.Result LabError LabReadinessState Unit → Prop
  | reset (s : LabReadinessState) (profile : { p : PersonaProfile // p.captureState = .reviewed }) {r : PersonaReadiness}
    (readiness : PersonaReadiness.fromReviewedProfile profile.val = .ok r) :
    Effect s (.resetForProfile profile) (.ok () ⟨some r, none, none, s.jobCounter⟩)
  | begun {s s' : LabReadinessState} (both : Both .begun s s') : Effect s .beginMediaPreparation (.ok () s')
  | exhausted {s s' : LabReadinessState} (both : Both .begun s s') (counter : s'.jobCounter = u64Max) :
    Effect s .beginMediaPreparation (.error .internal s')
  | validating {s s' : LabReadinessState} (both : Both .validating s s') : Effect s .beginMediaValidation (.ok () s')
  | failed {s s' : LabReadinessState} (both : Both .ended s s') : Effect s .failPending (.ok () s')
  | cancelled {s s' : LabReadinessState} (both : Both .ended s s') : Effect s .cancelPending (.ok () s')
  | ready {s s' : LabReadinessState} (m : Modality) (media : m ≠ .text) (change : Change m .ready s s') :
    Effect s (.markReady m) (.ok () s')
  | refused (s : LabReadinessState) (m : Modality) (e : LabError) (error : e = .invalidInput ∨ e = .invalidState) :
    Effect s (.markReady m) (.error e s)

theorem beginOne_change {name : String} (h : Consistent s) (hm : label m = some name) :
    ∃ s', Change m .begun s s' ∧
      ((beginOne m).run s = .ok () s' ∨ (beginOne m).run s = .error .internal s' ∧ s'.jobCounter = u64Max) := by
  have hma : m ≠ .text := by
    rintro rfl
    cases hm
  cases hr : s.readiness
  case none =>
    exact ⟨s, .unchanged _ s, .inl (by simp [beginOne, EStateM.run_bind, EStateM.run_get, hr])⟩
  case some r =>
    have hb : (beginOne m).run s
        = if r.modality m = .ready ∨ r.modality m = .preparing then .ok () s else (attempt m).run s := by
      simp only [beginOne, EStateM.run_bind, EStateM.run_get, hr]
      split <;> rfl
    rw [hb]
    split
    case isTrue => exact ⟨s, .unchanged _ s, .inl rfl⟩
    case isFalse hn =>
      have hs : Slot r m none := by
        have hs := h.slots r hr m hma
        generalize s.job m = slot at hs
        cases hs
        case empty hi ha => exact .empty hi ha
        case held hp _ _ _ => exact absurd (.inr hp) hn
      by_cases hc : s.jobCounter = u64Max
      case pos => exact ⟨s, .unchanged _ s, .inr ⟨attempt_exhausted hc, hc⟩⟩
      case neg =>
        have hlt := Nat.lt_of_le_of_ne h.counter hc
        obtain ⟨id, hid, hrun⟩ := attempt_run hm hr hs (fun he => hn (.inl he)) hlt
        exact ⟨_, .begun hr hm (not_or.mp hn) hlt hid, .inl hrun⟩

theorem beginMediaPreparation_effect (h : Consistent s) :
    Effect s .beginMediaPreparation (beginMediaPreparation.run s) := by
  cases hr : s.readiness
  case none =>
    have hrun : beginMediaPreparation.run s = .ok () s := by
      simp [beginMediaPreparation, EStateM.run_bind, EStateM.run_get, hr]
    exact hrun ▸ .begun ⟨s, .unchanged _ s, .unchanged _ s⟩
  case some r =>
    obtain ⟨s₁, hvoice, hrun | ⟨hrun, hc⟩⟩ := beginOne_change h (m := .voice) rfl
    · have h₁ := hvoice.consistent (by decide) h
      have hall : beginMediaPreparation.run s = (beginOne .video).run s₁ := by
        simp [beginMediaPreparation, EStateM.run_bind, EStateM.run_get, hr, hrun]
      rw [hall]
      obtain ⟨s₂, hvideo, hrun | ⟨hrun, hc⟩⟩ := beginOne_change h₁ (m := .video) rfl
      · exact hrun ▸ .begun ⟨s₁, hvoice, hvideo⟩
      · exact hrun ▸ .exhausted ⟨s₁, hvoice, hvideo⟩ hc
    · have hall : beginMediaPreparation.run s = .error .internal s₁ := by
        simp [beginMediaPreparation, EStateM.run_bind, EStateM.run_get, hr, hrun]
      exact hall ▸ .exhausted ⟨s₁, hvoice, .unchanged _ s₁⟩ hc

-- A call that handles the modalities one after the other and cannot fail at either.
theorem both_run {k : ChangeKind} {x : Modality → Update Unit}
    (hx : ∀ {s m}, Consistent s → m ≠ .text → ∃ s', Change m k s s' ∧ (x m).run s = .ok () s') (h : Consistent s) :
    ∃ s', Both k s s' ∧ (do x .voice; x .video : Update Unit).run s = .ok () s' := by
  obtain ⟨s₁, hvoice, hrun₁⟩ := hx h (m := .voice) (by decide)
  obtain ⟨s₂, hvideo, hrun₂⟩ := hx (hvoice.consistent (by decide) h) (m := .video) (by decide)
  exact ⟨s₂, ⟨s₁, hvoice, hvideo⟩, by rw [EStateM.run_bind, hrun₁]; exact hrun₂⟩

theorem beginValidationOne_change (h : Consistent s) (hma : m ≠ .text) :
    ∃ s', Change m .validating s s' ∧ (beginValidationOne m).run s = .ok () s' := by
  cases hr : s.readiness
  case none =>
    have hj := h.unset hr m
    refine ⟨s, .unchanged _ s, ?_⟩
    rw [beginValidationOne, EStateM.run_bind, takeJob_run, hj, setJob_none hj]
    rfl
  case some r => exact ⟨_, .validating hr, beginValidationOne_run hr (h.slots r hr m hma)⟩

theorem ended_change {readiness : ModalityReadiness} (hr : s.readiness = some r)
    (ho : readiness = .failed ∨ readiness = .notReady) : Change m .ended s (s.ended r readiness m) := by
  rw [ended]
  cases hj : s.job m
  case none     => exact .unchanged _ s
  case some job => exact .ended readiness hr hj ho

theorem finishPending_change (h : Consistent s) (hma : m ≠ .text) :
    ∃ s', Change m .ended s s' ∧ (finishPending m).run s = .ok () s' := by
  cases hr : s.readiness
  case none =>
    have hj := h.unset hr m
    refine ⟨s, .unchanged _ s, ?_⟩
    rw [finishPending, EStateM.run_bind, takeJob_run, hj, setJob_none hj]
    rfl
  case some r => exact ⟨_, ended_change hr (.inl rfl), finishPending_run hr (h.slots r hr m hma)⟩

theorem cancelOne_change (h : Consistent s) (hma : m ≠ .text) :
    ∃ s', Change m .ended s s' ∧ (cancelOne m).run s = .ok () s' := by
  cases hr : s.readiness
  case none =>
    have hj := h.unset hr m
    refine ⟨s, .unchanged _ s, ?_⟩
    rw [cancelOne, EStateM.run_bind, takeJob_run, hj, setJob_none hj]
    rfl
  case some r => exact ⟨_, ended_change hr (.inr rfl), cancelOne_run hr (h.slots r hr m hma)⟩

theorem markReady_effect (h : Consistent s) (m : Modality) : Effect s (.markReady m) ((markReady m).run s) := by
  by_cases hma : m = .text
  case pos =>
    subst hma
    exact .refused s .text .invalidInput (.inl rfl)
  case neg =>
    cases hr : s.readiness
    case none =>
      have hrun : (markReady m).run s = .ok () s := by
        simp [markReady, hma, EStateM.run_bind, EStateM.run_get, hr]
      exact hrun ▸ .ready m hma (.unchanged _ s)
    case some r =>
      rw [markReady_run hma hr (h.slots r hr m hma)]
      split
      case isTrue => exact .ready m hma (.unchanged _ s)
      case isFalse =>
        split
        case isTrue hv =>
          obtain ⟨job, hj, hst⟩ := Option.any_eq_true _ _ |>.mp hv
          exact .ready m hma (.ready hr hj (by simpa using hst))
        case isFalse => exact .refused s m .invalidState (.inr rfl)

theorem call_effect (h : Consistent s) (c : ReadinessCall) : Effect s c (c.call.run s) := by
  cases c
  case resetForProfile profile =>
    obtain ⟨profile, hp⟩ := profile
    obtain ⟨r, hr, -⟩ := PersonaReadiness.exists_fromReviewedProfile hp
    have hrun : (resetForProfile profile).run s = .ok () ⟨some r, none, none, s.jobCounter⟩ := by
      simp [resetForProfile, EStateM.run_bind, hr]
    exact hrun ▸ .reset s ⟨profile, hp⟩ hr
  case beginMediaPreparation => exact beginMediaPreparation_effect h
  case beginMediaValidation =>
    cases hr : s.readiness
    case none =>
      have hrun : beginMediaValidation.run s = .ok () s := by
        simp [beginMediaValidation, EStateM.run_bind, EStateM.run_get, hr]
      exact hrun ▸ .validating ⟨s, .unchanged _ s, .unchanged _ s⟩
    case some r =>
      obtain ⟨s', hb, hboth⟩ := both_run beginValidationOne_change h
      have hrun : beginMediaValidation.run s = .ok () s' := by
        rw [← hboth]
        simp [beginMediaValidation, EStateM.run_bind, EStateM.run_get, hr]
      exact hrun ▸ .validating hb
  case markReady m => exact markReady_effect h m
  case failPending =>
    obtain ⟨s', hb, hrun⟩ := both_run finishPending_change h
    exact hrun ▸ .failed hb
  case cancelPending =>
    obtain ⟨s', hb, hrun⟩ := both_run cancelOne_change h
    exact hrun ▸ .cancelled hb

end Calls

section Steps

variable {k : ChangeKind} {c : ReadinessCall} {result : EStateM.Result LabError LabReadinessState Unit}

theorem Initial.consistent (hi : r.Initial) (h : Consistent s) : Consistent ⟨some r, none, none, s.jobCounter⟩ where
  counter := h.counter
  unset hn := by cases hn
  text r' hr := by
    obtain rfl := Option.some.inj hr
    exact hi.text
  slots r' hr m hm := by
    obtain rfl := Option.some.inj hr
    have hs : Slot r m none := .empty (by simp [hi.notReady m hm]) (hi.activeJob m)
    cases m <;> exact hs

theorem Both.consistent (hb : Both k s s') (h : Consistent s) : Consistent s' :=
  have ⟨_, hvoice, hvideo⟩ := hb
  hvideo.consistent (by decide) (hvoice.consistent (by decide) h)

theorem Effect.consistent (he : Effect s c result) (h : Consistent s) : Consistent result.state := by
  cases he
  case reset profile r hr                => exact Initial.consistent (PersonaReadiness.initial hr) h
  case begun hb | validating hb          => exact hb.consistent h
  case failed hb | cancelled hb          => exact hb.consistent h
  case exhausted hb _                    => exact hb.consistent h
  case ready m hm hc                     => exact hc.consistent hm h
  case refused                           => exact h

theorem default_consistent : Consistent default where
  counter := Nat.zero_le _
  unset _ m := by cases m <;> rfl
  text _ hr := by cases hr
  slots _ hr := by cases hr

-- Two states in which a modality is in the same place.
structure Agrees (m : Modality) (s s' : LabReadinessState) : Prop where
  modality  : s'.modality m = s.modality m
  activeJob : s'.activeJob m = s.activeJob m
  job       : s'.job m = s.job m

theorem Agrees.refl : Agrees m s s :=
  ⟨rfl, rfl, rfl⟩

theorem Change.agrees (hc : Change m k s s') (h : m' ≠ m) : Agrees m' s s' :=
  ⟨(hc.others h).1, (hc.others h).2.1, (hc.others h).2.2⟩

-- What a joint call does to one of the modalities.
theorem Both.change (hb : Both k s s') (hm : m ≠ .text) :
    ∃ s₁ s₂, Agrees m s s₁ ∧ Change m k s₁ s₂ ∧ Agrees m s₂ s' := by
  obtain ⟨s₁, hvoice, hvideo⟩ := hb
  cases m
  case text  => exact absurd rfl hm
  case voice => exact ⟨s, s₁, .refl, hvoice, hvideo.agrees (by decide)⟩
  case video => exact ⟨s₁, s', hvoice.agrees (by decide), hvideo, .refl⟩

theorem Both.becomes_ready (hb : Both k s s') (hm : m ≠ .text) (hn : s.modality m ≠ some .ready)
    (hr : s'.modality m = some .ready) : k = .ready := by
  obtain ⟨s₁, s₂, h₁, hc, h₂⟩ := hb.change hm
  rw [← h₁.modality] at hn
  rw [h₂.modality] at hr
  exact (hc.becomes_ready hn hr).left

-- Nothing but the begin of validation puts a job that is being validated into a slot.
theorem Change.kept (hc : Change m k s s') (hm : m ≠ .text) (hk : k ≠ .validating) (hj : s'.job m = some job)
    (hv : job.state = .validating) : s.job m = some job := by
  cases hc
  case unchanged     => exact hj
  case validating    => exact absurd rfl hk
  case ended | ready => simp [hm] at hj
  case begun =>
    obtain rfl : _ = job := by simpa [hm] using hj
    cases hv

theorem Both.kept (hb : Both k s s') (hm : m ≠ .text) (hk : k ≠ .validating) (hj : s'.job m = some job)
    (hv : job.state = .validating) : s.job m = some job := by
  obtain ⟨s₁, s₂, h₁, hc, h₂⟩ := hb.change hm
  rw [← h₁.job]
  exact hc.kept hm hk (h₂.job ▸ hj) hv

theorem Change.isSome (hc : Change m k s s') : s'.readiness.isSome = s.readiness.isSome := by
  cases hc
  case unchanged                               => rfl
  case begun hr _ _ | ended hr _ | ready hr _ => simp [hr]
  case validating                              => simp

theorem Both.isSome (hb : Both k s s') : s'.readiness.isSome = s.readiness.isSome := by
  obtain ⟨_, hvoice, hvideo⟩ := hb
  rw [hvideo.isSome, hvoice.isSome]

end Steps

section Ids

variable {k : ChangeKind} {c : ReadinessCall} {result : EStateM.Result LabError LabReadinessState Unit}

-- The id that a call hands out: the modality follows another job after it.
def handedOut (s s' : LabReadinessState) (m : Modality) : Option PreparationJobId :=
  if s'.activeJob m = s.activeJob m then none else s'.activeJob m

theorem handedOut_eq_some_iff {id : PreparationJobId} :
    handedOut s s' m = some id ↔ s'.activeJob m = some id ∧ s'.activeJob m ≠ s.activeJob m := by
  rw [handedOut]
  split <;> simp_all

def handed (s s' : LabReadinessState) : List PreparationJobId :=
  [.voice, .video].filterMap (handedOut s s')

theorem mem_handed_iff {id : PreparationJobId} :
    id ∈ handed s s' ↔ handedOut s s' .voice = some id ∨ handedOut s s' .video = some id := by
  simp [handed]

-- The ids that a call hands out are named after what it adds to the counter.
structure Fresh (s s' : LabReadinessState) : Prop where
  counter : s.jobCounter ≤ s'.jobCounter
  nodup   : (handed s s').Nodup
  new     : ∀ id ∈ handed s s', Numbered s'.jobCounter id ∧ ¬Numbered s.jobCounter id

theorem Numbered.mono {n n' : Nat} {id : PreparationJobId} (hn : n ≤ n') : (Numbered n id) → Numbered n' id
  | ⟨m, name, i, hm, hi, hs⟩ => ⟨m, name, i, hm, Nat.le_trans hi hn, hs⟩

theorem Change.handedOut (hc : Change m k s s') (hm : m ≠ .text) {id : PreparationJobId}
    (hi : LabReadinessState.handedOut s s' m = some id) : Numbered s'.jobCounter id ∧ ¬Numbered s.jobCounter id :=
  have ⟨hi, hn⟩ := handedOut_eq_some_iff.mp hi
  hc.handed hm hi hn

theorem Both.fresh (hb : Both k s s') : Fresh s s' := by
  obtain ⟨s₁, hvoice, hvideo⟩ := hb
  have hl₁ := hvoice.counter
  have hl₂ := hvideo.counter
  have h₁ : ∀ {id}, handedOut s s' .voice = some id → Numbered s₁.jobCounter id ∧ ¬Numbered s.jobCounter id := by
    intro id hi
    rw [LabReadinessState.handedOut, (hvideo.agrees (show Modality.voice ≠ .video by decide)).activeJob] at hi
    exact hvoice.handedOut (by decide) hi
  have h₂ : ∀ {id}, handedOut s s' .video = some id → Numbered s'.jobCounter id ∧ ¬Numbered s₁.jobCounter id := by
    intro id hi
    rw [LabReadinessState.handedOut, ← (hvoice.agrees (show Modality.video ≠ .voice by decide)).activeJob] at hi
    exact hvideo.handedOut (by decide) hi
  refine ⟨Nat.le_trans hl₁ hl₂, ?_, fun id hi => ?_⟩
  · rw [handed]
    cases hv : handedOut s s' .voice <;> cases hw : handedOut s s' .video
    case some.some id id' =>
      have hne : id ≠ id' := by
        rintro rfl
        exact (h₂ hw).right (h₁ hv).left
      simpa [hv, hw] using hne
    all_goals simp [hv, hw]
  · obtain hi | hi := mem_handed_iff.mp hi
    · exact ⟨(h₁ hi).left.mono hl₂, (h₁ hi).right⟩
    · exact ⟨(h₂ hi).left, fun hn => (h₂ hi).right (hn.mono hl₁)⟩

theorem fresh_of_activeJob (hc : s.jobCounter ≤ s'.jobCounter)
    (h : ∀ m ≠ .text, s'.activeJob m = s.activeJob m ∨ s'.activeJob m = none) : Fresh s s' := by
  have hn : ∀ m ≠ .text, handedOut s s' m = none := by
    intro m hm
    rw [handedOut]
    obtain h | h := h m hm
    · rw [if_pos h]
    · rw [h, ite_self]
  have hnil : handed s s' = [] := by
    simp [handed, hn]
  exact ⟨hc, hnil ▸ List.nodup_nil, by simp [hnil]⟩

theorem Effect.fresh (he : Effect s c result) : Fresh s result.state := by
  cases he
  case begun hb | validating hb  => exact hb.fresh
  case failed hb | cancelled hb  => exact hb.fresh
  case exhausted hb _            => exact hb.fresh
  case refused                   => exact fresh_of_activeJob (Nat.le_refl _) fun _ _ => .inl rfl
  case reset profile r hr =>
    refine fresh_of_activeJob (Nat.le_refl _) fun m _ => .inr ?_
    exact (PersonaReadiness.initial hr).activeJob m
  case ready s' m hm hc =>
    refine fresh_of_activeJob hc.counter fun m' hm' => ?_
    by_cases h : m' = m
    case neg => exact .inl (hc.others h).2.1
    case pos =>
      subst h
      cases hc
      case unchanged => exact .inl rfl
      case ready     => exact .inr (by simp [activeJob, hm])

end Ids

end LabReadinessState
