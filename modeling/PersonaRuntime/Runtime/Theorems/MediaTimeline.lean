import Mathlib.Data.Option.Basic
import PersonaRuntime.Runtime.MediaSession

namespace MediaTimeline

-- What a stamp that is given out has found and what it leaves.
structure Stamped (timeline : MediaTimeline) (origin : MediaTurnOrigin) (stamp : MediaTimelineStamp)
    (timeline' : MediaTimeline) : Prop where
  current  : origin.epoch = timeline.epoch
  origin   : origin.originMicros ≤ stamp.presentationTimeMicros
  bounded  : stamp.presentationTimeMicros ≤ u64Max
  ordered  : ∀ {last}, timeline.lastPresentationMicros = some last → last ≤ stamp.presentationTimeMicros
  epoch    : stamp.epoch = timeline.epoch
  sequence : stamp.sequence = timeline.nextSequence
  after    : timeline' = { timeline with
    nextSequence           := timeline.nextSequence + 1
    lastPresentationMicros := some stamp.presentationTimeMicros }

-- The new floor is above everything that was presented, unless nothing fits there.
structure Rebased (timeline timeline' : MediaTimeline) : Prop where
  epoch    : timeline'.epoch = timeline.epoch + 1
  sequence : timeline'.nextSequence = timeline.nextSequence
  last     : timeline'.lastPresentationMicros = timeline.lastPresentationMicros
  floor    : ∀ {last}, timeline.lastPresentationMicros = some last →
    last < u64Max → last < timeline'.epochFloorMicros

variable {timeline timeline' : MediaTimeline} {origin : MediaTurnOrigin}

theorem stamp_run (timeline : MediaTimeline) (origin : MediaTurnOrigin) (relativeMicros : Nat) :
    (∃ e, (stamp origin relativeMicros).run timeline = .error e timeline) ∨
    ∃ st timeline', timeline.Stamped origin st timeline' ∧
      (stamp origin relativeMicros).run timeline = .ok st timeline' := by
  by_cases he : origin.epoch = timeline.epoch
  case neg => exact .inl ⟨.staleEpoch, by simp [stamp, he]⟩
  cases hp : checkedAdd origin.originMicros relativeMicros
  case none => exact .inl ⟨.overflow, by simp [stamp, he, hp, okOr]⟩
  case some presentation =>
    have ⟨hb, he'⟩ := checkedAdd_eq_some_iff.mp hp
    have ho : origin.originMicros ≤ presentation := by omega
    cases hl : timeline.lastPresentationMicros.any (presentation < ·)
    case true => exact .inl ⟨.timestampRegression, by simp [stamp, he, hp, okOr, hl]⟩
    cases hs : checkedAdd timeline.nextSequence 1
    case none => exact .inl ⟨.overflow, by simp [stamp, he, hp, okOr, hl, hs]⟩
    case some next =>
      obtain ⟨-, rfl⟩ := checkedAdd_eq_some_iff.mp hs
      refine .inr ⟨⟨timeline.epoch, timeline.nextSequence, presentation⟩, { timeline with
        nextSequence           := timeline.nextSequence + 1
        lastPresentationMicros := some presentation }, ?_, ?_⟩
      · exact ⟨he, ho, he' ▸ hb, fun h => by simpa [h] using hl, rfl, rfl, rfl⟩
      · simp [stamp, he, hp, okOr, hl, hs]

theorem rebase_run (timeline : MediaTimeline) (nowMillis : Nat) :
    (∃ e, (rebase nowMillis).run timeline = .error e timeline) ∨
    ∃ timeline', timeline.Rebased timeline' ∧
      (rebase nowMillis).run timeline = .ok timeline'.epoch timeline' := by
  cases hm : checkedMul nowMillis 1000
  case none => exact .inl ⟨.overflow, by simp [rebase, hm, okOr]⟩
  case some nowMicros =>
    cases he : checkedAdd timeline.epoch 1
    case none => exact .inl ⟨.overflow, by simp [rebase, hm, he, okOr]⟩
    case some epoch =>
      obtain ⟨-, rfl⟩ := checkedAdd_eq_some_iff.mp he
      refine .inr ⟨{ timeline with
        epoch            := timeline.epoch + 1
        epochFloorMicros :=
          max nowMicros ((timeline.lastPresentationMicros.bind (checkedAdd · 1)).getD 0) }, ?_, ?_⟩
      case refine_2 => simp [rebase, hm, he, okOr]
      refine ⟨rfl, rfl, rfl, fun {last} hl hm => ?_⟩
      have ha : checkedAdd last 1 = some (last + 1) := checkedAdd_eq_some_iff.mpr ⟨hm, rfl⟩
      simp only [hl, Option.bind_some, ha, Option.getD_some]
      omega

end MediaTimeline

namespace TurnMediaState

-- Where the origin of a turn comes from.
inductive Opens (turn : TurnMediaState) (timeline : MediaTimeline) (origin : MediaTurnOrigin) : Prop
  | before : (turn.origin = some origin) → Opens turn timeline origin
  | now : (turn.origin = none) → (origin.epoch = turn.boundEpoch) → (origin.epoch = timeline.epoch) →
    (timeline.epochFloorMicros ≤ origin.originMicros) → Opens turn timeline origin

theorem openOrigin_run (turn : TurnMediaState) (timeline : MediaTimeline) (nowMillis : Nat) :
    (∃ e, (openOrigin nowMillis).run (turn, timeline) = .error e (turn, timeline)) ∨
    ∃ origin, turn.Opens timeline origin ∧ (openOrigin nowMillis).run (turn, timeline) =
      .ok origin ({ turn with origin := some origin }, timeline) := by
  cases ho : turn.origin
  case some origin =>
    refine .inr ⟨origin, .before ho, ?_⟩
    have hs : { turn with origin := some origin } = turn := by rw [← ho]
    simp [openOrigin, ho, hs]
  case none =>
    cases hm : checkedMul nowMillis 1000
    case none => exact .inl ⟨.overflow, by simp [openOrigin, ho, MediaTimeline.openTurnOrigin, hm, okOr]⟩
    case some nowMicros =>
      have hr : timeline.openTurnOrigin nowMillis =
          .ok ⟨timeline.epoch, max nowMicros timeline.epochFloorMicros⟩ := by
        simp [MediaTimeline.openTurnOrigin, hm, okOr]
      by_cases he : timeline.epoch = turn.boundEpoch
      case neg => exact .inl ⟨.staleEpoch, by simp [openOrigin, ho, hr, he]⟩
      refine .inr ⟨⟨timeline.epoch, max nowMicros timeline.epochFloorMicros⟩, ?_, ?_⟩
      · exact .now ho he rfl (Nat.le_max_right _ _)
      · simp [openOrigin, ho, hr, he, modifyTurn]

end TurnMediaState

namespace StampRequest

variable {turn : TurnMediaState} {timeline : MediaTimeline} {origin : MediaTurnOrigin}

theorem openOrigin_run (r : StampRequest) (turn : TurnMediaState) (timeline : MediaTimeline)
    (nowMillis : Nat) :
    (∃ e, (r.openOrigin nowMillis).run (turn, timeline) = .error e (turn, timeline)) ∨
    ∃ origin, turn.Opens timeline origin ∧ (r.openOrigin nowMillis).run (turn, timeline) =
      .ok origin ({ turn with origin := some origin }, timeline) := by
  have h := TurnMediaState.openOrigin_run turn timeline nowMillis
  cases r
  case audio => exact h
  case video source =>
    cases hl : turn.lastVideoSourceMicros.any (source < ·)
    case true  => exact .inl ⟨.timestampRegression, by simp [openOrigin, hl]⟩
    case false => simpa [openOrigin, hl] using h

-- What a turn that got a stamp is afterwards, as far as the order of the timeline is concerned.
structure Received (turn : TurnMediaState) (stamp : MediaTimelineStamp) (turn' : TurnMediaState) :
    Prop where
  boundEpoch   : turn'.boundEpoch = turn.boundEpoch
  origin       : turn'.origin = turn.origin
  lastSequence : turn'.lastSequence = some stamp.sequence

-- The last step of an audio stamp can fail when the timeline has given the stamp out already.
inductive Outcome (r : StampRequest) (origin : MediaTurnOrigin) (turn : TurnMediaState)
    (timeline : MediaTimeline) :
    EStateM.Result MediaTimelineError (TurnMediaState × MediaTimeline) MediaTimelineStamp → Prop
  | refused (e : MediaTimelineError) : Outcome r origin turn timeline (.error e (turn, timeline))
  | lost {duration stamp timeline'} : (r = audio duration) →
    (u64Max < turn.audioCursorMicros + duration) → (timeline.Stamped origin stamp timeline') →
    Outcome r origin turn timeline (.error .overflow (turn, timeline'))
  | stamped {stamp turn' timeline'} : (timeline.Stamped origin stamp timeline') →
    (Received turn stamp turn') → Outcome r origin turn timeline (.ok stamp (turn', timeline'))

theorem stamp_run (r : StampRequest) (origin : MediaTurnOrigin) (turn : TurnMediaState)
    (timeline : MediaTimeline) :
    r.Outcome origin turn timeline ((r.stamp origin).run (turn, timeline)) := by
  cases r
  case audio duration =>
    obtain ⟨e, h⟩ | ⟨st, timeline', hs, h⟩ := timeline.stamp_run origin turn.audioCursorMicros
    case inl =>
      simpa [stamp, TurnMediaState.onTimeline, EStateM.zoom_run, h] using .refused e
    cases hc : checkedAdd turn.audioCursorMicros duration
    case none =>
      have ho : u64Max < turn.audioCursorMicros + duration := by simpa [checkedAdd] using hc
      simpa [stamp, TurnMediaState.onTimeline, EStateM.zoom_run, h, hc, okOr] using .lost rfl ho hs
    case some cursor =>
      simp only [stamp, EStateM.run_bind, EStateM.run_get, TurnMediaState.onTimeline, EStateM.zoom_run, h,
        hc, okOr, EStateM.check_ok_run, TurnMediaState.modifyTurn, EStateM.run_modify, EStateM.run_pure]
      exact .stamped hs ⟨rfl, rfl, rfl⟩
  case video source =>
    by_cases hb : source < turn.videoSourceBaseMicros.getD source
    case pos => simpa [stamp, hb] using .refused .timestampRegression
    obtain ⟨e, h⟩ | ⟨st, timeline', hs, h⟩ :=
      timeline.stamp_run origin (source - turn.videoSourceBaseMicros.getD source)
    case inl => simpa [stamp, hb, TurnMediaState.onTimeline, EStateM.zoom_run, h] using .refused e
    simp only [stamp, EStateM.run_bind, EStateM.run_get, hb, if_false, TurnMediaState.onTimeline,
      EStateM.zoom_run, h, TurnMediaState.modifyTurn, EStateM.run_modify, EStateM.run_pure]
    exact .stamped hs ⟨rfl, rfl, rfl⟩

end StampRequest

namespace MediaTimelineStamp

-- The order in which a session gives out its stamps.
structure Before (a b : MediaTimelineStamp) : Prop where
  sequence     : a.sequence < b.sequence
  epoch        : a.epoch ≤ b.epoch
  presentation : a.presentationTimeMicros ≤ b.presentationTimeMicros
  later        : a.epoch < b.epoch →
    a.presentationTimeMicros < b.presentationTimeMicros ∨ a.presentationTimeMicros = u64Max

-- A timeline has left a stamp behind.
structure Passed (a : MediaTimelineStamp) (timeline : MediaTimeline) : Prop where
  sequence : a.sequence < timeline.nextSequence
  epoch    : a.epoch ≤ timeline.epoch
  last     : ∃ last, timeline.lastPresentationMicros = some last ∧
    a.presentationTimeMicros ≤ last ∧ last ≤ u64Max
  floor    : a.epoch < timeline.epoch → a.presentationTimeMicros < timeline.epochFloorMicros ∨
    timeline.lastPresentationMicros = some u64Max

variable {a stamp : MediaTimelineStamp} {timeline timeline' : MediaTimeline} {origin : MediaTurnOrigin}

theorem Passed.of_stamped (s : timeline.Stamped origin stamp timeline') : stamp.Passed timeline' := by
  have ⟨_, _, hb, _, he, hs, ht⟩ := s
  subst ht
  refine ⟨by simp [hs], by simp [he], ⟨_, rfl, Nat.le_refl _, hb⟩, fun h => ?_⟩
  simp [he] at h

theorem Passed.before (p : a.Passed timeline) (s : timeline.Stamped origin stamp timeline')
    (hf : timeline.epochFloorMicros ≤ origin.originMicros) : a.Before stamp := by
  have ⟨last, hl, ha, hm⟩ := p.last
  have ho := s.ordered hl
  refine ⟨s.sequence ▸ p.sequence, s.epoch ▸ p.epoch, Nat.le_trans ha ho, fun h => ?_⟩
  obtain hp | hp := p.floor (s.epoch ▸ h)
  · exact .inl <| Nat.lt_of_lt_of_le hp <| Nat.le_trans hf s.origin
  · -- Nothing is left above `last`, so that the new stamp is there too.
    obtain rfl : last = u64Max := by simpa [hp] using hl.symm
    have hb := s.bounded
    omega

theorem Passed.stamped (p : a.Passed timeline) (s : timeline.Stamped origin stamp timeline') :
    a.Passed timeline' := by
  have ⟨last, hl, ha, hm⟩ := p.last
  have ho := s.ordered hl
  have hb := s.bounded
  have hs := p.sequence
  rw [s.after]
  refine ⟨by simp; omega, p.epoch, ⟨_, rfl, Nat.le_trans ha ho, hb⟩, fun h => ?_⟩
  obtain hp | hp := p.floor h
  · exact .inl hp
  · obtain rfl : last = u64Max := by simpa [hp] using hl.symm
    exact .inr <| congrArg some <| Nat.le_antisymm hb ho

theorem Passed.rebased (p : a.Passed timeline) (r : timeline.Rebased timeline') : a.Passed timeline' := by
  have ⟨last, hl, ha, hm⟩ := p.last
  refine ⟨r.sequence ▸ p.sequence, ?_, ⟨last, r.last ▸ hl, ha, hm⟩, fun _ => ?_⟩
  · have he := p.epoch
    have hr := r.epoch
    omega
  · by_cases h : last = u64Max
    case pos => exact .inr <| h ▸ r.last ▸ hl
    case neg => exact .inl <| Nat.lt_of_le_of_lt ha <| r.floor hl <| by omega

end MediaTimelineStamp

-- A turn keeps to the epoch that it was created in, and its origin is not below the floor of the
-- epoch for as long as the epoch lasts.
structure MediaTurn.Bound (turn : MediaTurn) (timeline : MediaTimeline) : Prop where
  epoch    : turn.media.boundEpoch ≤ timeline.epoch
  origin   : ∀ {o}, turn.media.origin = some o → o.epoch = turn.media.boundEpoch
  floor    : ∀ {o}, turn.media.origin = some o → o.epoch = timeline.epoch →
    timeline.epochFloorMicros ≤ o.originMicros
  stamping : ∀ {r o}, turn.stamping = some (r, o) → turn.media.origin = some o

namespace MediaTurn.Bound

variable {turn turn' : MediaTurn} {timeline timeline' : MediaTimeline} {origin : MediaTurnOrigin}
variable {stamp : MediaTimelineStamp}

theorem new : (⟨.new timeline.epoch, none⟩ : MediaTurn).Bound timeline where
  epoch    := Nat.le_refl _
  origin   := nofun
  floor    := nofun
  stamping := nofun

theorem opened (b : turn.Bound timeline) (h : turn.media.Opens timeline origin) (r : StampRequest) :
    (⟨{ turn.media with origin := some origin }, some (r, origin)⟩ : MediaTurn).Bound timeline := by
  refine ⟨b.epoch, ?origin, ?floor, fun h => by cases h; rfl⟩ <;> rintro _ ⟨⟩
  all_goals cases h
  case origin.before h    => exact b.origin h
  case origin.now h _ _   => exact h
  case floor.before h     => exact b.floor h
  case floor.now hf       => exact fun _ => hf

theorem released (b : turn.Bound timeline) : (⟨turn.media, none⟩ : MediaTurn).Bound timeline :=
  ⟨b.epoch, b.origin, b.floor, nofun⟩

theorem stamped (b : turn.Bound timeline) (s : timeline.Stamped origin stamp timeline') :
    turn.Bound timeline' := by
  rw [s.after]
  exact ⟨b.epoch, b.origin, b.floor, b.stamping⟩

theorem received {media : TurnMediaState} (b : turn.Bound timeline)
    (r : StampRequest.Received turn.media stamp media) : (⟨media, none⟩ : MediaTurn).Bound timeline where
  epoch    := r.boundEpoch ▸ b.epoch
  origin h := r.boundEpoch ▸ b.origin (r.origin ▸ h)
  floor h  := b.floor (r.origin ▸ h)
  stamping := nofun

theorem rebased (b : turn.Bound timeline) (r : timeline.Rebased timeline') : turn.Bound timeline' := by
  have he := b.epoch
  have hr := r.epoch
  refine ⟨by omega, b.origin, fun h ho => ?_, b.stamping⟩
  -- No turn has an origin of the new epoch yet.
  have hb := b.origin h
  omega

end MediaTurn.Bound

def TimelineObservation.stamp : TimelineObservation → Option MediaTimelineStamp
  | stamped _ stamp => some stamp
  | _               => none

namespace MediaSession

variable {s s' : MediaSession} {e : TimelineEvent} {t o : List TimelineObservation}

def setTurn (s : MediaSession) (i : Nat) (media : TurnMediaState)
    (stamping : Option (StampRequest × MediaTurnOrigin)) : MediaSession :=
  { s with turns := s.turns.set i ⟨media, stamping⟩ }

-- Everything that a step can do.
inductive Move (s : MediaSession) : TimelineEvent → MediaSession → List TimelineObservation → Prop
  | newTurn : Move s .newTurn { s with turns := s.turns ++ [⟨.new s.timeline.epoch, none⟩] }
      [.created s.turns.length s.timeline.epoch]
  | opened {i r now turn origin} : (s.turns[i]? = some turn) → (turn.media.Opens s.timeline origin) →
    Move s (.openOrigin i r now)
      (s.setTurn i { turn.media with origin := some origin } (some (r, origin))) []
  | stamped {i turn r origin stamp media timeline} : (s.turns[i]? = some turn) →
    (turn.stamping = some (r, origin)) → (s.timeline.Stamped origin stamp timeline) →
    (StampRequest.Received turn.media stamp media) →
    Move s (.stamp i) { s.setTurn i media none with timeline } [.stamped i stamp]
  | lost {i turn duration origin stamp timeline} : (s.turns[i]? = some turn) →
    (turn.stamping = some (.audio duration, origin)) →
    (u64Max < turn.media.audioCursorMicros + duration) →
    (s.timeline.Stamped origin stamp timeline) →
    Move s (.stamp i) { s.setTurn i turn.media none with timeline } [.failed .overflow]
  | refused {e i turn error} : (s.turns[i]? = some turn) →
    Move s e (s.setTurn i turn.media none) [.failed error]
  | rebased {now timeline} : (s.timeline.Rebased timeline) →
    Move s (.rebase now) { s with timeline } [.rebased timeline.epoch]
  | notRebased {now error} : Move s (.rebase now) s [.failed error]

theorem step_move (h : machine.step s e = some (s', o)) : s.Move e s' o := by
  cases e
  case newTurn =>
    cases h
    exact .newTurn
  case openOrigin i r now =>
    obtain ⟨turn, ht, h⟩ := Option.bind_eq_some_iff.mp h
    obtain ⟨-, h⟩ := guard_bind_eq_some h
    obtain ⟨error, hr⟩ | ⟨origin, ho, hr⟩ := r.openOrigin_run turn.media s.timeline now
    all_goals
      simp only [hr, Option.pure_def, Option.some.injEq, Prod.mk.injEq] at h
      obtain ⟨rfl, rfl⟩ := h
    · exact .refused ht
    · exact .opened ht ho
  case stamp i =>
    replace ⟨turn, ht, h⟩ := Option.bind_eq_some_iff.mp h
    replace ⟨⟨r, origin⟩, hs, h⟩ := Option.bind_eq_some_iff.mp h
    dsimp only at h
    have hr := r.stamp_run origin turn.media s.timeline
    generalize (r.stamp origin).run (turn.media, s.timeline) = result at h hr
    cases hr
    all_goals
      simp only [Option.pure_def, Option.some.injEq, Prod.mk.injEq] at h
      obtain ⟨rfl, rfl⟩ := h
    case refused          => exact .refused ht
    case lost hr ho hm    => exact .lost ht (hr ▸ hs) ho hm
    case stamped hm hr    => exact .stamped ht hs hm hr
  case rebase now =>
    obtain ⟨error, hr⟩ | ⟨timeline, hm, hr⟩ := s.timeline.rebase_run now
    all_goals
      simp only [machine, hr, Option.some.injEq, Prod.mk.injEq] at h
      obtain ⟨rfl, rfl⟩ := h
    · exact .notRebased
    · exact .rebased hm

-- What the trace says about the state. The last two fields are about the order of the observations.
structure Tracked (t : List TimelineObservation) (s : MediaSession) : Prop where
  passed  : ∀ {i stamp}, .stamped i stamp ∈ t → stamp.Passed s.timeline
  turns   : ∀ {i turn}, s.turns[i]? = some turn →
    turn.Bound s.timeline ∧ .created i turn.media.boundEpoch ∈ t
  created : ∀ {i epoch}, .created i epoch ∈ t →
    ∃ turn, s.turns[i]? = some turn ∧ turn.media.boundEpoch = epoch
  stamped : ∀ {i stamp}, .stamped i stamp ∈ t → .created i stamp.epoch ∈ t
  rebased : ∀ {i epoch epoch'}, [.created i epoch, .rebased epoch'].Sublist t →
    epoch < s.timeline.epoch
  stale   : ∀ {i epoch epoch' stamp},
    ¬[.created i epoch, .rebased epoch', .stamped i stamp].Sublist t
  ordered : (t.filterMap (·.stamp)).Pairwise MediaTimelineStamp.Before

-- The turns keep their epochs and the timeline goes on.
structure Keeps (s s' : MediaSession) (o : List TimelineObservation) : Prop where
  passed   : ∀ {a : MediaTimelineStamp}, a.Passed s.timeline → a.Passed s'.timeline
  epoch    : s.timeline.epoch ≤ s'.timeline.epoch
  forward  : ∀ {i : Nat} {turn : MediaTurn}, s.turns[i]? = some turn →
    ∃ turn' : MediaTurn, s'.turns[i]? = some turn' ∧ turn'.media.boundEpoch = turn.media.boundEpoch
  backward : ∀ {i : Nat} {turn' : MediaTurn}, s'.turns[i]? = some turn' → turn'.Bound s'.timeline ∧
    (.created i turn'.media.boundEpoch ∈ o ∨
      ∃ turn : MediaTurn, s.turns[i]? = some turn ∧ turn'.media.boundEpoch = turn.media.boundEpoch)

-- What each observation says about the step that shows it.
inductive Shows (s s' : MediaSession) : TimelineObservation → Prop
  | created {i epoch turn} : (s'.turns[i]? = some turn) → (turn.media.boundEpoch = epoch) →
    Shows s s' (.created i epoch)
  | stamped {i stamp turn} : (s.turns[i]? = some turn) → (turn.media.boundEpoch = stamp.epoch) →
    (stamp.epoch = s.timeline.epoch) → (stamp.Passed s'.timeline) →
    (∀ {a : MediaTimelineStamp}, a.Passed s.timeline → a.Before stamp) → Shows s s' (.stamped i stamp)
  | rebased {epoch} : (s.timeline.epoch < s'.timeline.epoch) → Shows s s' (.rebased epoch)
  | failed {error} : Shows s s' (.failed error)

namespace Tracked

theorem new : Tracked [] .new where
  passed  := nofun
  turns   := nofun
  created := nofun
  stamped := nofun
  rebased := nofun
  stale   := nofun
  ordered := .nil

theorem silent (h : Tracked t s) (k : s.Keeps s' []) : Tracked t s' where
  passed hs  := k.passed (h.passed hs)
  turns ht   := by
    obtain ⟨b, hc | ⟨turn, ht, he⟩⟩ := k.backward ht
    · cases hc
    · exact ⟨b, he ▸ (h.turns ht).right⟩
  created hc := by
    have ⟨turn, ht, he⟩ := h.created hc
    have ⟨turn', ht', he'⟩ := k.forward ht
    exact ⟨turn', ht', he'.trans he⟩
  stamped    := h.stamped
  rebased hr := Nat.lt_of_lt_of_le (h.rebased hr) k.epoch
  stale      := h.stale
  ordered    := h.ordered

theorem shows {x : TimelineObservation} (h : Tracked t s) (k : s.Keeps s' [x]) (hx : s.Shows s' x) :
    Tracked (t ++ [x]) s' where
  passed {i stamp} hs := by
    obtain hs | rfl : .stamped i stamp ∈ t ∨ .stamped i stamp = x := by simpa using hs
    · exact k.passed (h.passed hs)
    · cases hx; assumption
  turns ht := by
    obtain ⟨b, hc | ⟨turn, ht, he⟩⟩ := k.backward ht
    · exact ⟨b, List.mem_append_right _ hc⟩
    · exact ⟨b, List.mem_append_left _ <| he ▸ (h.turns ht).right⟩
  created {i epoch} hc := by
    obtain hc | rfl : .created i epoch ∈ t ∨ .created i epoch = x := by simpa using hc
    · have ⟨turn, ht, he⟩ := h.created hc
      have ⟨turn', ht', he'⟩ := k.forward ht
      exact ⟨turn', ht', he'.trans he⟩
    · cases hx
      case created ht he => exact ⟨_, ht, he⟩
  stamped {i stamp} hs := by
    apply List.mem_append_left
    obtain hs | rfl : .stamped i stamp ∈ t ∨ .stamped i stamp = x := by simpa using hs
    · exact h.stamped hs
    · cases hx
      case stamped ht he _ _ _ => exact he ▸ (h.turns ht).right
  rebased {i epoch epoch'} hr := by
    obtain hr | ⟨hc, rfl⟩ := Machine.sublist_snoc (l := [TimelineObservation.created i epoch]) hr
    · exact Nat.lt_of_lt_of_le (h.rebased hr) k.epoch
    · have ⟨turn, ht, he⟩ := h.created <| List.singleton_sublist.mp hc
      have hb := (h.turns ht).left.epoch
      cases hx
      case rebased hr => omega
  stale {i epoch epoch' stamp} hs := by
    obtain hs | ⟨hr, rfl⟩ :=
      Machine.sublist_snoc (l := [TimelineObservation.created i epoch, .rebased epoch']) hs
    · exact h.stale hs
    · -- The turn is bound to an epoch that has passed.
      have hl := h.rebased hr
      have ⟨turn, ht, he⟩ := h.created <| hr.subset <| List.mem_cons_self ..
      cases hx
      case stamped ht' he' hs _ _ =>
        obtain rfl := by simpa [ht] using ht'
        omega
  ordered := by
    cases hx
    case stamped i stamp _ _ _ _ hb =>
      simp only [List.filterMap_append, List.filterMap_cons, TimelineObservation.stamp, List.filterMap_nil]
      refine List.pairwise_append.mpr ⟨h.ordered, List.pairwise_singleton _ _, ?_⟩
      intro a ha b hs
      obtain rfl := List.mem_singleton.mp hs
      obtain ⟨x, hx, ha⟩ := List.mem_filterMap.mp ha
      cases x <;> cases ha
      exact hb (h.passed hx)
    all_goals simpa [TimelineObservation.stamp] using h.ordered

end Tracked

namespace Keeps

variable {i : Nat} {turn : MediaTurn} {media : TurnMediaState} {timeline : MediaTimeline}
variable {stamping : Option (StampRequest × MediaTurnOrigin)}

theorem setTurn (ht : s.turns[i]? = some turn) (he : media.boundEpoch = turn.media.boundEpoch)
    (hb : (⟨media, stamping⟩ : MediaTurn).Bound timeline)
    (hs : ∀ {j : Nat} {turn : MediaTurn}, s.turns[j]? = some turn → turn.Bound timeline)
    (hp : ∀ {a : MediaTimelineStamp}, a.Passed s.timeline → a.Passed timeline)
    (hl : s.timeline.epoch ≤ timeline.epoch) :
    s.Keeps { s.setTurn i media stamping with timeline } o where
  passed   := hp
  epoch    := hl
  forward {j u} hu := by
    have hi := (List.getElem?_eq_some_iff.mp ht).choose
    by_cases hj : j = i
    case pos =>
      obtain rfl : u = turn := by simpa [hj, ht] using hu.symm
      exact ⟨⟨media, stamping⟩, by simp [MediaSession.setTurn, hj, hi], he⟩
    case neg => exact ⟨u, by simpa [MediaSession.setTurn, Ne.symm hj] using hu, rfl⟩
  backward {j u} hu := by
    by_cases hj : j = i
    case pos =>
      have hi := (List.getElem?_eq_some_iff.mp ht).choose
      obtain rfl : ⟨media, stamping⟩ = u := by simpa [MediaSession.setTurn, hj, hi] using hu
      exact ⟨hb, .inr ⟨turn, hj ▸ ht, he⟩⟩
    case neg =>
      have hu : s.turns[j]? = some u := by simpa [MediaSession.setTurn, Ne.symm hj] using hu
      exact ⟨hs hu, .inr ⟨u, hu, rfl⟩⟩

theorem newTurn (hs : ∀ {i : Nat} {turn : MediaTurn}, s.turns[i]? = some turn → turn.Bound s.timeline) :
    s.Keeps { s with turns := s.turns ++ [⟨.new s.timeline.epoch, none⟩] }
      [.created s.turns.length s.timeline.epoch] where
  passed     := id
  epoch      := Nat.le_refl _
  forward ht := ⟨_, by simp [List.getElem?_append_left (List.getElem?_eq_some_iff.mp ht).choose, ht], rfl⟩
  backward {i u} hu := by
    by_cases hi : i < s.turns.length
    case pos =>
      have hu : s.turns[i]? = some u := by simpa [List.getElem?_append_left hi] using hu
      exact ⟨hs hu, .inr ⟨u, hu, rfl⟩⟩
    case neg =>
      have hl := (List.getElem?_eq_some_iff.mp hu).choose
      obtain rfl : i = s.turns.length := by simp at hl; omega
      obtain rfl := by simpa using hu
      exact ⟨.new, .inl <| by simp [TurnMediaState.new]⟩

theorem rebased (hs : ∀ {i : Nat} {turn : MediaTurn}, s.turns[i]? = some turn → turn.Bound s.timeline)
    (r : s.timeline.Rebased timeline) : s.Keeps { s with timeline } o where
  passed p   := p.rebased r
  epoch      := by simp [r.epoch]
  forward ht := ⟨_, ht, rfl⟩
  backward h := ⟨(hs h).rebased r, .inr ⟨_, h, rfl⟩⟩

end Keeps

theorem Move.tracked (m : s.Move e s' o) (h : Tracked t s) : Tracked (t ++ o) s' := by
  have hb : ∀ {i : Nat} {turn : MediaTurn}, s.turns[i]? = some turn → turn.Bound s.timeline :=
    fun ht => (h.turns ht).left
  cases m
  case newTurn => exact h.shows (.newTurn hb) (.created List.getElem?_concat_length rfl)
  case opened r _ _ _ ht ho =>
    rw [List.append_nil]
    exact h.silent <| .setTurn ht rfl ((hb ht).opened ho r) hb id (Nat.le_refl _)
  case stamped stamp media timeline ht hs hm hr =>
    have b := hb ht
    have hc : s.timeline.epoch = timeline.epoch := by rw [hm.after]
    have hf := b.floor (b.stamping hs) hm.current
    refine h.shows (.setTurn ht hr.boundEpoch (b.received hr |>.stamped hm) (fun ht => (hb ht).stamped hm)
      (·.stamped hm) (Nat.le_of_eq hc)) ?_
    exact .stamped ht (b.origin (b.stamping hs) ▸ hm.current.trans hm.epoch.symm) hm.epoch
      (.of_stamped hm) (·.before hm hf)
  case lost ht hs _ hm =>
    refine h.shows (.setTurn ht rfl ((hb ht).released.stamped hm) (fun ht => (hb ht).stamped hm)
      (·.stamped hm) (Nat.le_of_eq ?_)) .failed
    rw [hm.after]
  case refused ht => exact h.shows (.setTurn ht rfl (hb ht).released hb id (Nat.le_refl _)) .failed
  case rebased hr => exact h.shows (.rebased hb hr) (.rebased <| by simp [hr.epoch])
  case notRebased =>
    exact h.shows ⟨id, Nat.le_refl _, fun ht => ⟨_, ht, rfl⟩, fun ht => ⟨hb ht, .inr ⟨_, ht, rfl⟩⟩⟩ .failed

theorem run_tracked (r : machine.Run t s) : Tracked t s := by
  apply r.invariant
  case hi => rintro _ rfl; exact .new
  case h  => exact fun h hs => (step_move hs).tracked h

-- What holds of everything that a session has stamped and of every call that it refuses.
structure InOrder (t : List TimelineObservation) (s : MediaSession) : Prop where
  stamps  : (t.filterMap (·.stamp)).Pairwise MediaTimelineStamp.Before
  bound   : ∀ {i stamp epoch}, .stamped i stamp ∈ t → .created i epoch ∈ t → stamp.epoch = epoch
  created : ∀ {i stamp}, .stamped i stamp ∈ t → .created i stamp.epoch ∈ t
  stale   : ∀ {i epoch epoch' stamp},
    ¬[.created i epoch, .rebased epoch', .stamped i stamp].Sublist t
  opening : ∀ {i r now s' o}, machine.step s (.openOrigin i r now) = some (s', o) →
    s'.timeline = s.timeline
  failing : ∀ {e s' o error}, machine.step s e = some (s', o) → .failed error ∈ o →
    (∀ {i turn duration origin}, e = .stamp i → s.turns[i]? = some turn →
      turn.stamping = some (.audio duration, origin) →
      turn.media.audioCursorMicros + duration ≤ u64Max) →
    s'.timeline = s.timeline

theorem run_inOrder (r : machine.Run t s) : InOrder t s := by
  have h := run_tracked r
  refine ⟨h.ordered, fun hs hc => ?bound, h.stamped, h.stale, fun hs => ?opening, fun hs hf ho => ?failing⟩
  case bound =>
    have ⟨turn, ht, he⟩ := h.created (h.stamped hs)
    have ⟨turn', ht', he'⟩ := h.created hc
    obtain rfl : turn = turn' := by simpa [ht] using ht'
    exact he.symm.trans he'
  case opening =>
    cases step_move hs <;> rfl
  case failing =>
    cases step_move hs
    case lost ht hd hl _ =>
      have hd := ho rfl ht hd
      omega
    case refused | notRebased => rfl
    all_goals simp at hf

-- Two turns on a clock that runs backwards, with a rebase between them. The origin of the second
-- turn is raised to the floor.
theorem run_inOrder_rebased : ∃ t s, machine.Run t s ∧
    t.filterMap (·.stamp) = [⟨1, 1, 7000⟩, ⟨1, 2, 7020⟩, ⟨2, 3, 7021⟩] ∧ InOrder t s :=
  have r := Machine.Run.of_replay (m := machine) .new
    [.newTurn, .openOrigin 0 (.audio 20) 7, .stamp 0, .openOrigin 0 (.audio 20) 5, .stamp 0, .rebase 3,
      .newTurn, .openOrigin 1 (.video 900) 4, .openOrigin 0 (.audio 20) 8, .stamp 0, .stamp 1]
    rfl rfl
  ⟨_, _, r, rfl, run_inOrder r⟩

end MediaSession
