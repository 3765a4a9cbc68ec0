import PersonaRuntime.OwnerLab.Theorems.Readiness

open LabReadinessState

namespace ReadinessStep

variable {x : ReadinessStep} {m : Modality}

def Resets (x : ReadinessStep) : Prop :=
  ∃ profile, x.call = .resetForProfile profile

def handed (x : ReadinessStep) : List PreparationJobId :=
  LabReadinessState.handed x.before x.after

-- A call that makes a modality ready, and that found its job in validation.
structure Confirms (m : Modality) (x : ReadinessStep) : Prop where
  call       : x.call = .markReady m
  validating : ∃ job ∈ x.before.job m, job.state = .validating

-- A call that leaves a job of a modality in validation.
structure Validates (m : Modality) (job : PreparationJob) (x : ReadinessStep) : Prop where
  call : x.call = .beginMediaValidation
  job  : x.after.job m = some job

-- What holds of every call.
structure Rules (x : ReadinessStep) : Prop where
  confirms : ∀ m ≠ .text, x.before.modality m ≠ some .ready → x.after.modality m = some .ready → x.Confirms m
  others   : ∀ m, x.call = .markReady m → ∀ m' ≠ m, Agrees m' x.before x.after
  internal : x.result = .error .internal → x.after.jobCounter = u64Max

variable {s s' : LabReadinessState} {c : ReadinessCall} {result : EStateM.Result LabError LabReadinessState Unit}

theorem rules_of_both {k : ChangeKind} {r : Except LabError Unit} (hb : Both k s s') (hk : k ≠ .ready)
    (hc : ∀ m, c ≠ .markReady m) (hi : r = .error .internal → s'.jobCounter = u64Max) : Rules ⟨s, c, r, s'⟩ where
  confirms _ hm hn h := absurd (hb.becomes_ready hm hn h) hk
  others m he := absurd he (hc m)
  internal := hi

theorem rules_of_effect (he : Effect s c result) : Rules ⟨s, c, result.toExcept, result.state⟩ := by
  cases he
  case begun hb | validating hb | failed hb | cancelled hb =>
    exact rules_of_both hb (by decide) (fun m hc => by cases hc) (fun hi => by cases hi)
  case exhausted hb hc => exact rules_of_both hb (by decide) (fun m hc => by cases hc) (fun _ => hc)
  case reset profile r hr =>
    constructor
    case confirms =>
      intro m hm _ h
      simp [modality, (PersonaReadiness.initial hr).notReady m hm] at h
    case others   => intro m hc; cases hc
    case internal => intro hi; cases hi
  case refused m e he =>
    constructor
    case confirms => exact fun m hm hn h => absurd h hn
    case others   => exact fun _ _ _ _ => .refl
    case internal =>
      intro hi
      obtain rfl := Except.error.inj hi
      obtain he | he := he <;> cases he
  case ready s' m hm hc =>
    constructor
    case confirms =>
      intro m' hm' hn h
      by_cases hmm : m' = m
      case pos =>
        subst hmm
        exact ⟨rfl, (hc.becomes_ready hn h).right⟩
      case neg => exact absurd ((hc.agrees hmm).modality ▸ h) hn
    case others =>
      intro m' he m'' hne
      obtain rfl := ReadinessCall.markReady.inj he
      exact hc.agrees hne
    case internal => intro hi; cases hi

end ReadinessStep

namespace LabReadinessState

open ReadinessStep

variable {t : List ReadinessStep} {x : ReadinessStep} {s s' : LabReadinessState} {m : Modality}

-- A call that there has been since the last reset.
def Since (t : List ReadinessStep) (p : ReadinessStep → Prop) : Prop :=
  ∃ t₁ x t₂, t = t₁ ++ x :: t₂ ∧ p x ∧ ∀ y ∈ t₂, ¬y.Resets

theorem Since.last {p : ReadinessStep → Prop} (hp : p x) : Since (t ++ [x]) p :=
  ⟨t, x, [], rfl, hp, by simp⟩

theorem Since.snoc {p : ReadinessStep → Prop} (h : Since t p) (hx : ¬x.Resets) : Since (t ++ [x]) p := by
  obtain ⟨t₁, y, t₂, rfl, hp, hn⟩ := h
  refine ⟨t₁, y, t₂ ++ [x], by simp, hp, fun z hz => ?_⟩
  obtain hz | hz := List.mem_append.mp hz
  · exact hn z hz
  · exact List.mem_singleton.mp hz ▸ hx

structure Protocol (t : List ReadinessStep) (s : LabReadinessState) : Prop where
  steps     : ∀ x ∈ t, x.Rules
  occupied  : ∀ m ≠ .text, (s.job m).isSome ↔ s.modality m = some .preparing
  carries   : ∀ m ≠ .text, ∀ job ∈ s.job m, ∃ r ∈ s.readiness, r.Tracks job ∧ job.modality = m
                ∧ (job.state = .preparing ∨ job.state = .validating)
  confirmed : ∀ m ≠ .text, s.modality m = some .ready → Since t (Confirms m)
  validated : ∀ m ≠ .text, ∀ job ∈ s.job m, job.state = .validating → Since t (Validates m job)
  text      : (∃ x ∈ t, x.Resets) → s.modality .text = some .ready
  fresh     : (t.flatMap ReadinessStep.handed).Nodup

-- The part of the protocol that is about the calls so far.
structure History (t : List ReadinessStep) (s : LabReadinessState) : Prop where
  consistent : Consistent s
  steps      : ∀ x ∈ t, x.Rules
  confirmed  : ∀ m ≠ .text, s.modality m = some .ready → Since t (Confirms m)
  validated  : ∀ m ≠ .text, ∀ job ∈ s.job m, job.state = .validating → Since t (Validates m job)
  reset      : (∃ x ∈ t, x.Resets) → s.readiness.isSome
  numbered   : ∀ id ∈ t.flatMap ReadinessStep.handed, Numbered s.jobCounter id
  fresh      : (t.flatMap ReadinessStep.handed).Nodup

theorem Consistent.occupied (h : Consistent s) (hm : m ≠ .text) :
    (s.job m).isSome ↔ s.modality m = some .preparing := by
  cases hr : s.readiness
  case none => simp [h.unset hr m, modality, hr]
  case some r =>
    have hs := h.slots r hr m hm
    generalize s.job m = slot at hs
    cases hs
    case empty hi ha        => simp [modality, hr, hi]
    case held hp ht hj hst  => simp [modality, hr, hp]

theorem Consistent.carries (h : Consistent s) (hm : m ≠ .text) {job : PreparationJob} (hj : s.job m = some job) :
    ∃ r ∈ s.readiness, r.Tracks job ∧ job.modality = m ∧ (job.state = .preparing ∨ job.state = .validating) := by
  cases hr : s.readiness
  case none => simp [h.unset hr m] at hj
  case some r =>
    have hs := h.slots r hr m hm
    rw [hj] at hs
    cases hs
    case held hp ht hjm hst => exact ⟨r, rfl, ht, hjm, hst⟩

theorem History.protocol (h : History t s) : Protocol t s where
  steps         := h.steps
  occupied _ hm := h.consistent.occupied hm
  carries m hm job hj := h.consistent.carries hm hj
  confirmed     := h.confirmed
  validated     := h.validated
  fresh         := h.fresh
  text ht := by
    obtain ⟨r, hr⟩ := Option.isSome_iff_exists.mp (h.reset ht)
    simpa [modality, hr] using (show r.modality .text = .ready from h.consistent.text r hr)

-- What a call does to the readiness, and to jobs that are being validated.
theorem Effect.isSome {c : ReadinessCall} {result : EStateM.Result LabError LabReadinessState Unit}
    (he : Effect s c result) : (s.readiness.isSome ∨ ∃ profile, c = .resetForProfile profile) →
      result.state.readiness.isSome := by
  intro h
  cases he
  case reset => rfl
  case begun hb | validating hb | failed hb | cancelled hb | exhausted hb _ => simpa [hb.isSome] using h
  case ready hc => simpa [hc.isSome] using h
  case refused  => simpa using h

theorem Effect.kept {c : ReadinessCall} {result : EStateM.Result LabError LabReadinessState Unit}
    (he : Effect s c result) (hm : m ≠ .text) {job : PreparationJob} (hj : result.state.job m = some job)
    (hv : job.state = .validating) :
    c = .beginMediaValidation ∨ s.job m = some job ∧ ∀ profile, c ≠ .resetForProfile profile := by
  cases he
  case reset => cases m <;> cases hj
  case validating => exact .inl rfl
  case begun hb | failed hb | cancelled hb | exhausted hb _ =>
    exact .inr ⟨hb.kept hm (by decide) hj hv, fun _ hc => by cases hc⟩
  case refused => exact .inr ⟨hj, fun _ hc => by cases hc⟩
  case ready s' m' hm' hc =>
    refine .inr ⟨?_, fun _ hc => by cases hc⟩
    by_cases hmm : m = m'
    case neg => exact (hc.agrees hmm).job ▸ hj
    case pos =>
      subst hmm
      exact hc.kept hm (by decide) hj hv

theorem Effect.confirmed {c : ReadinessCall} {result : EStateM.Result LabError LabReadinessState Unit}
    (he : Effect s c result) (hm : m ≠ .text) (hr : result.state.modality m = some .ready) :
    ∀ profile, c ≠ .resetForProfile profile := by
  rintro profile rfl
  cases he
  case reset r hr' => simp [modality, (PersonaReadiness.initial hr').notReady m hm] at hr

theorem History.step {c : ReadinessCall} (h : History t s) :
    History (t ++ [⟨s, c, (c.call.run s).toExcept, (c.call.run s).state⟩]) (c.call.run s).state := by
  have he := call_effect h.consistent c
  have hrules := rules_of_effect he
  have hfresh := he.fresh
  generalize c.call.run s = result at he hrules hfresh
  constructor
  case consistent => exact he.consistent h.consistent
  case steps =>
    intro x hx
    obtain hx | hx := List.mem_append.mp hx
    · exact h.steps x hx
    · exact List.mem_singleton.mp hx ▸ hrules
  case confirmed =>
    intro m hm hr
    by_cases hb : s.modality m = some .ready
    case pos => exact (h.confirmed m hm hb).snoc fun ⟨profile, hc⟩ => he.confirmed hm hr profile hc
    case neg => exact .last (hrules.confirms m hm hb hr)
  case validated =>
    intro m hm job hj hv
    obtain hc | ⟨hb, hc⟩ := he.kept hm hj hv
    · exact .last ⟨hc, hj⟩
    · exact (h.validated m hm job hb hv).snoc fun ⟨profile, hc'⟩ => hc profile hc'
  case reset =>
    rintro ⟨x, hx, hr⟩
    obtain hx | hx := List.mem_append.mp hx
    · exact he.isSome (.inl (h.reset ⟨x, hx, hr⟩))
    · obtain rfl := List.mem_singleton.mp hx
      exact he.isSome (.inr hr)
  case numbered =>
    intro id hi
    rw [List.flatMap_append, List.mem_append] at hi
    obtain hi | hi := hi
    · exact (h.numbered id hi).mono hfresh.counter
    · exact (hfresh.new id (by simpa [ReadinessStep.handed] using hi)).left
  case fresh =>
    rw [List.flatMap_append, List.nodup_append']
    refine ⟨h.fresh, by simpa [ReadinessStep.handed] using hfresh.nodup, fun id hi hi' => ?_⟩
    exact (hfresh.new id (by simpa [ReadinessStep.handed] using hi')).right (h.numbered id hi)

theorem default_history : History [] default where
  consistent := default_consistent
  steps      := by simp
  confirmed  := by simp [default, modality]
  validated m hm job hj _ := by cases m <;> cases hj
  reset      := by simp
  numbered   := by simp
  fresh      := List.nodup_nil

theorem machine_history (run : machine.Run t s) : History t s := by
  refine run.invariant (fun hi => ?_) fun h hs => ?_
  · obtain rfl := hi
    exact default_history
  · obtain ⟨rfl, rfl⟩ := Prod.mk.inj (Option.some.inj hs)
    exact h.step

-- Readiness follows its protocol along every run.
theorem readiness_protocol (run : machine.Run t s) : Protocol t s :=
  (machine_history run).protocol

def preparedProfile : PersonaProfile where
  identity     := ⟨⟨"readiness-owner", by decide, by decide⟩, ⟨3, by decide⟩, .digitalTwin⟩
  captureState := .reviewed
  claims       := []

-- Voice is prepared in full, and Video fails.
def preparation : List ReadinessCall := [
  .resetForProfile ⟨preparedProfile, rfl⟩, .beginMediaPreparation, .markReady .voice, .beginMediaValidation,
  .markReady .voice, .failPending, .markReady .text]

theorem readiness_protocol_prepared :
    ∃ t s, Protocol t s ∧ t.length = 7 ∧ s.modality .voice = some .ready ∧ s.modality .video = some .failed := by
  obtain ⟨t, s, e, h⟩ : ∃ t s, machine.Steps default t s ∧
      (t.length = 7 && s.modality .voice = some .ready && s.modality .video = some .failed) = true :=
    Machine.Steps.exists_of_replay_any preparation (by decide +kernel)
  simp only [Bool.and_eq_true, decide_eq_true_eq] at h
  exact ⟨t, s, readiness_protocol ⟨rfl, e⟩, h.1.1, h.1.2, h.2⟩

end LabReadinessState
