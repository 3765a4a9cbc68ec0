import PersonaRuntime.Runtime.MediaDelivery
import PersonaRuntime.Runtime.Theorems.Turns

namespace TurnMutableState

def withMedia (s : TurnMutableState) (media : TurnMediaState) : TurnMutableState :=
  { s with media }

variable {s : TurnMutableState} {media : TurnMediaState} {timeline : MediaTimeline}

@[simp] theorem withMedia_state : (s.withMedia media).state = s.state := rfl
@[simp] theorem withMedia_media : (s.withMedia media).media = media := rfl

theorem WellFormed.withMedia (w : s.WellFormed) : (s.withMedia media).WellFormed :=
  (Change.media media).preserves_wellFormed w

-- The two parts make up the stamps of a turn when nothing comes between them.
theorem mediaStamp_run (r : StampRequest) (now : Nat) :
    (mediaStamp (r.call now)).run (s, timeline) =
      (openMediaOrigin r now >>= finishMediaStamp r).run (s, timeline) := by
  by_cases h : s.state = .outputting
  case neg => simp [mediaStamp, openMediaOrigin, h]
  case pos =>
    cases ho : (r.openOrigin now).run (s.media, timeline)
    case error => simp [mediaStamp, openMediaOrigin, h, EStateM.zoom_run, r.call_eq, ho]
    case ok origin t =>
      cases hs : (r.stamp origin).run t
      all_goals simp [mediaStamp, openMediaOrigin, finishMediaStamp, h, EStateM.zoom_run, r.call_eq, ho, hs]

-- The calls that do not stamp keep to the state of their turn.
theorem WellFormed.call_media (w : s.WellFormed) {c : TurnCall}
    (hc : ∀ n d, c ≠ .nextAudioMediaStamp n d ∧ c ≠ .nextVideoMediaStamp n d) :
    (c.call.run (s, timeline)).state.1.media = s.media ∧
    (c.call.run (s, timeline)).state.2 = timeline := by
  have ht : ∀ {α : Type} {x : Update α}, ((TurnCall.onTurn x).run (s, timeline)).state.2 = timeline := by
    intro α x
    cases hx : x.run s <;> simp [TurnCall.onTurn, EStateM.zoom_run, hx]
  cases c
  case nextAudioMediaStamp n d => exact absurd rfl (hc n d).left
  case nextVideoMediaStamp n d => exact absurd rfl (hc n d).right
  all_goals refine ⟨?_, ht⟩; simp only [TurnCall.call, onTurn_state]
  case transition next =>
    rw [transition_run]
    split_ifs <;> rfl
  case transitionAndFreeze next =>
    rw [w.transitionAndFreeze_run]
    split_ifs <;> rfl
  case interrupt =>
    rw [w.interrupt_run]
    split_ifs <;> rfl
  case beginOutputSegment =>
    rw [beginOutputSegment_run]
    split_ifs <;> rfl
  case reconcile r id =>
    obtain ⟨_, _, h⟩ := receipt_received r id s
    rw [h]

theorem openMediaOrigin_run (s : TurnMutableState) (timeline : MediaTimeline) (r : StampRequest)
    (now : Nat) :
    (∃ e, (openMediaOrigin r now).run (s, timeline) = .error e (s, timeline)) ∨
    s.state = .outputting ∧ ∃ origin, s.media.Opens timeline origin ∧
      (openMediaOrigin r now).run (s, timeline) =
        .ok origin (s.withMedia { s.media with origin := some origin }, timeline) := by
  by_cases h : s.state = .outputting
  case neg => exact .inl ⟨.invalidStateTransition, by simp [openMediaOrigin, h]⟩
  obtain ⟨e, hr⟩ | ⟨origin, ho, hr⟩ := r.openOrigin_run s.media timeline now
  · exact .inl ⟨mapMediaTimelineError e, by simp [openMediaOrigin, h, EStateM.zoom_run, hr]⟩
  · exact .inr ⟨h, origin, ho, by simp [openMediaOrigin, h, EStateM.zoom_run, hr, withMedia]⟩

end TurnMutableState

theorem ActiveTurn.method_media {t : ActiveTurn} {m : MediaTimeline} (w : t.state.WellFormed)
    {x : TurnMethod} (hx : x.stamps = false) (s : ActiveSession) (now : Option Nat) :
    ((x.call s now).run (t, m)).state.1.state.media = t.state.media ∧
    ((x.call s now).run (t, m)).state.2 = m := by
  cases x <;> simp only [TurnMethod.call, authorize, beginProcessing, beginOutput, complete, deny,
    fail, beginOutputSegment, deliver]
  case nextAudioMediaStamp | nextVideoMediaStamp => simp [TurnMethod.stamps] at hx
  case interrupt =>
    cases hi : t.state.state.interruptible <;> simp [interrupt_run w, hi]
    case true => rfl
  all_goals
    obtain h | ⟨_, h⟩ := guarded_state (t := t) (m := m) <;> rw [h]
    · exact ⟨rfl, rfl⟩
    · exact w.call_media (by simp)

namespace ActiveTurn

-- What a turn never takes back. A cancelled turn keeps its media as they are.
structure Continues (turn turn' : ActiveTurn) : Prop where
  boundEpoch   : turn'.state.media.boundEpoch = turn.state.media.boundEpoch
  lastSequence : ∀ {q}, turn.state.media.lastSequence = some q →
    ∃ q', turn'.state.media.lastSequence = some q' ∧ q ≤ q'
  cancelled    : turn.state.state = .cancelled →
    turn'.state.state = .cancelled ∧ turn'.state.media = turn.state.media

structure MediaSound (turn : ActiveTurn) (timeline : MediaTimeline) : Prop where
  wellFormed   : turn.state.WellFormed
  origin       : ∀ {o}, turn.state.media.origin = some o → o.epoch = turn.state.media.boundEpoch
  lastSequence : ∀ {q}, turn.state.media.lastSequence = some q → q < timeline.nextSequence

variable {t t' : ActiveTurn} {m m' : MediaTimeline}

theorem Continues.of_media (hm : t'.state.media = t.state.media)
    (hs : t.state.state = .cancelled → t'.state.state = .cancelled) : t.Continues t' where
  boundEpoch     := by rw [hm]
  lastSequence h := ⟨_, hm ▸ h, Nat.le_refl _⟩
  cancelled h    := ⟨hs h, hm⟩

theorem Continues.of_state (h : t'.state = t.state) : t.Continues t' :=
  .of_media (by rw [h]) (by rw [h]; exact id)

theorem MediaSound.of_media (s : t.MediaSound m) (w : t'.state.WellFormed)
    (hm : t'.state.media = t.state.media) (hn : m.nextSequence ≤ m'.nextSequence) :
    t'.MediaSound m' where
  wellFormed     := w
  origin h       := hm ▸ s.origin (hm ▸ h)
  lastSequence h := Nat.lt_of_lt_of_le (s.lastSequence (hm ▸ h)) hn

theorem MediaSound.of_state (s : t.MediaSound m) (h : t'.state = t.state)
    (hn : m.nextSequence ≤ m'.nextSequence) : t'.MediaSound m' :=
  s.of_media (h ▸ s.wellFormed) (by rw [h]) hn

end ActiveTurn

namespace ActiveSession

variable {s s' : ActiveSession} {i : TurnAddress} {t t' : ActiveTurn} {m : MediaTimeline}

def MediaSound (s : ActiveSession) : Prop :=
  ∀ {i t}, s.turns i = some t → t.MediaSound s.mediaTimeline

-- A step that reaches into the state of at most one turn.
structure MediaMove (s : ActiveSession) (touched : Option TurnAddress) (s' : ActiveSession) : Prop where
  sound   : s'.MediaSound
  forward : ∀ {i t}, s.turns i = some t →
    ∃ t', s'.turns i = some t' ∧ t.Continues t' ∧ (touched ≠ some i → t'.state = t.state)

theorem MediaMove.refl (w : s.MediaSound) {j : Option TurnAddress} : s.MediaMove j s where
  sound     := w
  forward h := ⟨_, h, .of_state rfl, fun _ => rfl⟩

theorem MediaMove.setTurn (w : s.MediaSound) (ht : s.turns i = some t) (hc : t.Continues t')
    (hs : t'.MediaSound m) (hn : s.mediaTimeline.nextSequence ≤ m.nextSequence) :
    s.MediaMove (some i) { s.setTurn i t' with mediaTimeline := m } where
  sound {j u} hu := by
    obtain ⟨rfl, rfl⟩ | hu := setTurn_turns hu
    · exact hs
    · exact (w hu).of_state rfl hn
  forward {j u} hu := by
    by_cases hj : j = i
    case pos =>
      obtain rfl : u = t := by simpa [hj, ht] using hu.symm
      exact ⟨t', by simp [ActiveSession.setTurn, hj], hc, fun h => absurd (by rw [hj]) h⟩
    case neg =>
      exact ⟨u, by simpa [ActiveSession.setTurn, hj] using hu, .of_state rfl, fun _ => rfl⟩

theorem Move.nextSequence {e : SessionEvent} {o : List SessionObservation} (mv : s.Move e s' o)
    (w : s.MediaSound) (he : e.stamps = false) :
    s'.mediaTimeline.nextSequence = s.mediaTimeline.nextSequence := by
  cases mv
  case controlled c _ =>
    cases c
    case rebased r => exact r.sequence
    case written w => cases w <;> rfl
  case newTurn j turnId correlationId persona _ =>
    obtain ⟨_, hr⟩ | ⟨_, _, _, _, hr⟩ := newTurn_run s j turnId correlationId persona
    all_goals rw [hr]; rfl
  case method j x now t ht =>
    have wt := (w (ofTurn_eq_some_iff.mp ht).left).wellFormed
    simp [ActiveTurn.method_media wt he s now]
  case issue j scope dataClass now t _ =>
    obtain ⟨_, hr⟩ | ⟨_, _, _, _, hr⟩ := issueProviderPermit_run s j t scope dataClass now
    all_goals rw [hr]; rfl
  case egress n now c t _ _ =>
    obtain ⟨_, hr⟩ | ⟨_, hr⟩ := beginProviderEgress_run s n c t now
    all_goals rw [hr]; rfl
  case handles | dropPermit => rfl

-- Nothing but a delivery touches the media of a turn.
theorem step_mediaMove {e : SessionEvent} {o : List SessionObservation} (w : s.MediaSound)
    (he : e.stamps = false) (h : machine.step s e = some (s', o)) : s.MediaMove e.locks s' := by
  have mv := step_move h
  have hn := mv.nextSequence w he
  refine ⟨fun {i t'} ht' => ?sound, fun {i t} ht => ?forward⟩
  case sound =>
    cases mv.turnMove ht'
    case new hs =>
      refine ⟨hs ▸ TurnMutableState.new_wellFormed _ _, ?_, ?_⟩
      all_goals
        rw [hs]
        exact nofun
    case kept ht hs _ => exact (w ht).of_state hs (Nat.le_of_eq hn.symm)
    case method x now hx ht hs =>
      subst hx
      have wt := (w ht).wellFormed
      have hm := ActiveTurn.method_media (m := s.mediaTimeline) wt he s now
      have hw := (ActiveTurn.method_change (m := s.mediaTimeline) wt x s now).preserves_wellFormed wt
      exact (w ht).of_media (hs ▸ hw) (hs ▸ hm.left) (Nat.le_of_eq hn.symm)
  case forward =>
    have ⟨t', ht', _⟩ := (step_advances h).forward ht
    refine ⟨t', ht', ?_⟩
    cases mv.turnMove ht'
    case new hi _      => simp [ht] at hi
    case kept ht₁ hs _ =>
      obtain rfl : _ = t := by simpa [ht] using ht₁.symm
      exact ⟨.of_state hs, fun _ => hs⟩
    case method x now hx ht₁ hs =>
      obtain rfl : _ = t := by simpa [ht] using ht₁.symm
      subst hx
      have wt := (w ht).wellFormed
      refine ⟨.of_media ?_ fun hc => ?_, fun hl => absurd rfl hl⟩
      · exact hs ▸ (ActiveTurn.method_media wt he s now).left
      · have hp := (ActiveTurn.method_change (m := s.mediaTimeline) wt x s now).preserves_terminal
        rw [hs, hp (by simp [hc, TurnState.terminal, TurnState.interruptible]), hc]

end ActiveSession

-- A stamp that a turn was given.
structure TurnMediaState.Allotted (media : TurnMediaState) (stamp : MediaTimelineStamp) : Prop where
  epoch    : stamp.epoch = media.boundEpoch
  sequence : ∃ q, media.lastSequence = some q ∧ stamp.sequence ≤ q

-- What a call that is on its way relies on.
def MediaStep.Holds (s : ActiveSession) : MediaStep → Prop
  | beginOutputSegment i stamp _ | send i _ stamp _ =>
    ∃ t, s.turns i = some t ∧ t.state.media.Allotted stamp
  | reconcileTransportSend .. => True
  | mediaFlushContext i => ∃ t, s.turns i = some t ∧ t.state.state = .cancelled
  | flushMedia i epoch throughSequence => ∃ t, s.turns i = some t ∧ t.state.state = .cancelled ∧
    t.state.mediaFlushContext = (epoch, throughSequence)

-- What the transport was told.
def TransportObservation.Holds (s : ActiveSession) : TransportObservation → Prop
  | sent i event => ∃ t, s.turns i = some t ∧ t.state.media.Allotted event.timeline
  | flushed i event => ∃ t, s.turns i = some t ∧ t.state.state = .cancelled ∧
    t.state.mediaFlushContext = (event.epoch, event.throughSequence)

namespace ActiveSession.MediaMove

variable {s s' : ActiveSession} {i : TurnAddress} {j : Option TurnAddress}

theorem allotted (m : s.MediaMove j s') {stamp : MediaTimelineStamp}
    (h : ∃ t, s.turns i = some t ∧ t.state.media.Allotted stamp) :
    ∃ t, s'.turns i = some t ∧ t.state.media.Allotted stamp := by
  have ⟨t, ht, a⟩ := h
  have ⟨t', ht', hc, _⟩ := m.forward ht
  have ⟨q, hq, hs⟩ := a.sequence
  have ⟨q', hq', hl⟩ := hc.lastSequence hq
  exact ⟨t', ht', a.epoch.trans hc.boundEpoch.symm, q', hq', Nat.le_trans hs hl⟩

theorem cancelled (m : s.MediaMove j s') {P : TurnMediaState → Prop}
    (h : ∃ t, s.turns i = some t ∧ t.state.state = .cancelled ∧ P t.state.media) :
    ∃ t, s'.turns i = some t ∧ t.state.state = .cancelled ∧ P t.state.media := by
  have ⟨t, ht, hs, hp⟩ := h
  have ⟨t', ht', hc, _⟩ := m.forward ht
  have ⟨hs', hm⟩ := hc.cancelled hs
  exact ⟨t', ht', hs', hm ▸ hp⟩

theorem step (m : s.MediaMove j s') {p : MediaStep} (h : p.Holds s) : p.Holds s' := by
  cases p
  case beginOutputSegment | send => exact m.allotted h
  case reconcileTransportSend    => trivial
  case mediaFlushContext         =>
    have ⟨t, ht, hs⟩ := h
    have ⟨t', ht', hs', _⟩ := m.cancelled (P := fun _ => True) ⟨t, ht, hs, trivial⟩
    exact ⟨t', ht', hs'⟩
  case flushMedia                => exact m.cancelled (P := (·.flushContext = _)) h

theorem observation (m : s.MediaMove j s') {x : TransportObservation} (h : x.Holds s) : x.Holds s' := by
  cases x
  case sent    => exact m.allotted h
  case flushed => exact m.cancelled (P := (·.flushContext = _)) h

end ActiveSession.MediaMove

namespace MediaRuntime

variable {s s' : MediaRuntime} {t o : List TransportObservation} {e : MediaRuntimeEvent}

-- The turn of a delivery that is about to be stamped is outputting and has its origin.
structure Covered (t : List TransportObservation) (s : MediaRuntime) : Prop where
  sound    : s.session.MediaSound
  stamping : ∀ {i r p o}, s.stamping i = some (r, p, o) → ∃ turn, s.session.turns i = some turn ∧
    turn.state.state = .outputting ∧ turn.state.media.origin = some o
  pending  : ∀ {p}, p ∈ s.pending → p.Holds s.session
  trace    : ∀ {x}, x ∈ t → x.Holds s.session

theorem Covered.move {j : Option TurnAddress} (c : Covered t s) (m : s.session.MediaMove j s'.session)
    (hs : ∀ {i r p o}, s'.stamping i = some (r, p, o) → (s.stamping i = some (r, p, o) ∧ j ≠ some i) ∨
      ∃ turn, s'.session.turns i = some turn ∧
        turn.state.state = .outputting ∧ turn.state.media.origin = some o)
    (hp : ∀ {p}, p ∈ s'.pending → p ∈ s.pending ∨ p.Holds s'.session)
    (ho : ∀ {x}, x ∈ o → x.Holds s'.session) : Covered (t ++ o) s' where
  sound      := m.sound
  stamping h := by
    obtain ⟨h, hj⟩ | h := hs h
    · have ⟨turn, ht, hs, ho⟩ := c.stamping h
      have ⟨turn', ht', _, hk⟩ := m.forward ht
      exact ⟨turn', ht', by rw [hk hj, hs], by rw [hk hj, ho]⟩
    · exact h
  pending h  := by
    obtain h | h := hp h
    · exact m.step (c.pending h)
    · exact h
  trace h    := by
    obtain h | h := List.mem_append.mp h
    · exact m.observation (c.trace h)
    · exact ho h

variable {i : TurnAddress} {turn : ActiveTurn}

theorem writeTurn_self (ht : s.session.turns i = some turn) :
    s.writeTurn i turn (turn.state, s.session.mediaTimeline) = s := by
  have h : Function.update s.session.turns i (some turn) = s.session.turns := by
    rw [← ht, Function.update_eq_self]
  simp only [writeTurn, ActiveSession.setTurn, h]

-- A delivery is refused or takes the lock of its turn.
theorem deliver_cases (ht : s.session.turns i = some turn) (input : MediaInput) (now : Option Nat) :
    s.deliver i turn input now = s ∨
    turn.state.state = .outputting ∧ ∃ r p origin,
      turn.state.media.Opens s.session.mediaTimeline origin ∧
      s.deliver i turn input now =
        { s.writeTurn i turn (turn.state.withMedia { turn.state.media with origin := some origin },
            s.session.mediaTimeline) with
          stamping := Function.update s.stamping i (some (r, p, origin)) } := by
  simp only [deliver]
  split
  case h_2 => exact .inl rfl
  case h_1 r p now _ =>
    obtain ⟨_, hr⟩ | ⟨hs, origin, ho, hr⟩ :=
      TurnMutableState.openMediaOrigin_run turn.state s.session.mediaTimeline r now
    · exact .inl <| by simp only [hr, writeTurn_self ht]
    · exact .inr ⟨hs, r, p, origin, ho, by simp only [hr]⟩

-- A delivery that has the lock of its turn releases it, with or without a stamp.
theorem finishStamp_cases (s : MediaRuntime) (i : TurnAddress) (turn : ActiveTurn) (r : StampRequest)
    (p : MediaPayload) (origin : MediaTurnOrigin) :
    (∃ timeline, s.session.mediaTimeline.nextSequence ≤ timeline.nextSequence ∧
      s.finishStamp i turn r p origin =
        { s with stamping := Function.update s.stamping i none }.writeTurn i turn (turn.state, timeline)) ∨
    ∃ stamp media timeline, s.session.mediaTimeline.Stamped origin stamp timeline ∧
      StampRequest.Received turn.state.media stamp media ∧
      s.finishStamp i turn r p origin =
        { ({ s with stamping := Function.update s.stamping i none } : MediaRuntime).writeTurn i turn
            (turn.state.withMedia media, timeline) with
          pending := s.pending ++ [.beginOutputSegment i stamp p] } := by
  have h := r.stamp_run origin turn.state.media s.session.mediaTimeline
  simp only [finishStamp, TurnMutableState.finishMediaStamp, EStateM.zoom_run]
  generalize (r.stamp origin).run (turn.state.media, s.session.mediaTimeline) = result at h
  cases h
  case refused => exact .inl ⟨_, Nat.le_refl _, rfl⟩
  case lost hm =>
    refine .inl ⟨_, ?_, rfl⟩
    rw [hm.after]
    exact Nat.le_succ _
  case stamped hm hr => exact .inr ⟨_, _, _, hm, hr, rfl⟩

theorem beginOutputSegment_state (session : ActiveSession) (now : Option Nat)
    (w : turn.state.WellFormed) :
    ((beginOutputSegment session now).run turn).state.state.WellFormed ∧
    ((beginOutputSegment session now).run turn).state.state.media = turn.state.media ∧
    ((beginOutputSegment session now).run turn).state.state.state = turn.state.state := by
  cases hg : ActiveTurn.requireExecutionactiveEgress session turn now
  case error => simpa [beginOutputSegment, hg] using w
  case ok =>
    have hr := TurnMutableState.beginOutputSegment_run (s := turn.state)
    split_ifs at hr with ho
    case pos | neg => simpa [beginOutputSegment, hg, EStateM.zoom_run, hr] using w
    case pos =>
      have hw := (TurnMutableState.Change.segment (not_not.mp ho)).preserves_wellFormed w
      simpa [beginOutputSegment, hg, EStateM.zoom_run, hr] using ⟨hw, rfl⟩

namespace Covered

theorem deliver (c : Covered t s) (hl : s.locked i = false) (ht : s.session.turns i = some turn)
    (input : MediaInput) (now : Option Nat) : Covered t (s.deliver i turn input now) := by
  obtain h | ⟨hs, r, p, origin, ho, h⟩ := deliver_cases ht input now <;> rw [h]
  case inl => exact c
  have w := c.sound ht
  have hc : turn.Continues { turn with
      state := turn.state.withMedia { turn.state.media with origin := some origin } } :=
    ⟨rfl, fun h => ⟨_, h, Nat.le_refl _⟩, fun h => by simp [hs] at h⟩
  have hw : ActiveTurn.MediaSound { turn with
      state := turn.state.withMedia { turn.state.media with origin := some origin } }
      s.session.mediaTimeline := by
    refine ⟨w.wellFormed.withMedia, ?_, w.lastSequence⟩
    rintro _ ⟨⟩
    cases ho
    case before ho  => exact w.origin ho
    case now hb _ _ => exact hb
  rw [← t.append_nil]
  refine c.move (.setTurn c.sound ht hc hw (Nat.le_refl _)) (fun {j r p o} h => ?_) .inl nofun
  by_cases hj : j = i
  case pos =>
    subst hj
    obtain ⟨-, -, rfl⟩ := by simpa using h
    exact .inr ⟨_, Function.update_self .., hs, rfl⟩
  case neg => exact .inl ⟨by simpa [writeTurn, hj] using h, by simpa [eq_comm] using hj⟩

-- The turn is outputting, so that no flush has been asked for it yet.
theorem finishStamp {r : StampRequest} {p : MediaPayload} {origin : MediaTurnOrigin} (c : Covered t s)
    (hs : s.stamping i = some (r, p, origin)) (ht : s.session.turns i = some turn) :
    Covered t (s.finishStamp i turn r p origin) := by
  have w := c.sound ht
  have ⟨_, ht', ho, hg⟩ := c.stamping hs
  obtain rfl : turn = _ := by simpa [ht] using ht'
  have hr : ∀ {j : TurnAddress} {x}, Function.update s.stamping i none j = some x →
      s.stamping j = some x ∧ some i ≠ some j := by
    intro j x h
    by_cases hj : j = i
    case pos => simp [hj] at h
    case neg => exact ⟨by simpa [hj] using h, by simpa [eq_comm] using hj⟩
  rw [← t.append_nil]
  obtain ⟨timeline, hn, h⟩ | ⟨stamp, media, timeline, hm, hc, h⟩ :=
    finishStamp_cases s i turn r p origin <;> rw [h]
  case inl =>
    exact c.move (.setTurn c.sound ht (.of_state rfl) (w.of_state rfl hn) hn) (fun h => .inl (hr h)) .inl nofun
  have hn : timeline.nextSequence = s.session.mediaTimeline.nextSequence + 1 := by rw [hm.after]
  have hk : turn.Continues { turn with state := turn.state.withMedia media } := by
    refine ⟨hc.boundEpoch, fun {q} h => ⟨stamp.sequence, hc.lastSequence, ?_⟩, fun h => by simp [ho] at h⟩
    have hq := w.lastSequence h
    have hl := hm.sequence
    omega
  have hw : ActiveTurn.MediaSound { turn with state := turn.state.withMedia media } timeline := by
    refine ⟨w.wellFormed.withMedia, fun h => ?_, fun {q} h => ?_⟩
    · exact (w.origin (hc.origin ▸ h)).trans hc.boundEpoch.symm
    · obtain rfl : stamp.sequence = q := by simpa [hc.lastSequence] using h
      have hl := hm.sequence
      omega
  refine c.move (.setTurn c.sound ht hk hw (hn ▸ Nat.le_succ _)) (fun h => .inl (hr h)) (fun {p'} h => ?_) nofun
  obtain h | rfl : p' ∈ s.pending ∨ p' = .beginOutputSegment i stamp p := by simpa using h
  · exact .inl h
  · refine .inr ⟨_, Function.update_self .., ?_, stamp.sequence, hc.lastSequence, Nat.le_refl _⟩
    exact hm.epoch.trans <| hm.current.symm.trans <| (w.origin hg).trans hc.boundEpoch.symm

-- Steps that touch nothing of a turn but its segments.
theorem setState (c : Covered t s) (hl : s.locked i = false) (ht : s.session.turns i = some turn)
    {turn' : ActiveTurn} {pending : List MediaStep} (w : turn'.state.WellFormed)
    (hm : turn'.state.media = turn.state.media)
    (hs : turn.state.state = .cancelled → turn'.state.state = .cancelled)
    (hp : ∀ {p}, p ∈ pending → p ∈ s.pending ∨ p.Holds (s.session.setTurn i turn')) :
    Covered t { s with session := s.session.setTurn i turn', pending } := by
  rw [← t.append_nil]
  refine c.move (.setTurn c.sound ht (.of_media hm hs) ((c.sound ht).of_media w hm (Nat.le_refl _))
    (Nat.le_refl _)) (fun {j r p o} h => .inl ⟨h, ?_⟩) hp nofun
  rintro ⟨⟩
  have h : s.stamping i = some (r, p, o) := h
  simp [locked, h] at hl

theorem interruptAndFlushMedia (c : Covered t s) (hl : s.locked i = false)
    (ht : s.session.turns i = some turn) : Covered t (s.interruptAndFlushMedia i turn) := by
  have w := (c.sound ht).wellFormed
  have hr := ActiveTurn.interrupt_run (m := s.session.mediaTimeline) w
  cases hi : turn.state.state.interruptible <;> simp only [hi, if_true] at hr
  case false =>
    simp only [MediaRuntime.interruptAndFlushMedia, hr]
    exact c.setState hl ht w rfl id .inl
  case true =>
    simp only [MediaRuntime.interruptAndFlushMedia, hr]
    refine c.setState hl ht ((TurnMutableState.Change.freeze hi rfl).preserves_wellFormed w) rfl
      (fun _ => rfl) fun {p} h => ?_
    obtain h | rfl : p ∈ s.pending ∨ p = .mediaFlushContext i := by simpa using h
    · exact .inl h
    · exact .inr ⟨_, Function.update_self .., rfl⟩

-- Steps that only look at the session.
theorem look (c : Covered t s) {pending : List MediaStep}
    (hp : ∀ {p}, p ∈ pending → p ∈ s.pending ∨ p.Holds s.session)
    (ho : ∀ {x}, x ∈ o → x.Holds s.session) : Covered (t ++ o) { s with pending } :=
  c.move (.refl c.sound (j := none)) (fun h => .inl ⟨h, nofun⟩) hp ho

theorem mem_resumed {p : MediaStep} {k : Nat} {next : Option MediaStep}
    (h : p ∈ s.pending.eraseIdx k ++ next.toList) : p ∈ s.pending ∨ next = some p := by
  obtain h | h := List.mem_append.mp h
  · exact .inl <| List.mem_of_mem_eraseIdx h
  · exact .inr <| by simpa using h

theorem resume {k : Nat} {p : MediaStep} {now : Option Nat} {transport : Except TransportErrorKind Unit}
    {session : ActiveSession} {next : Option MediaStep} (c : Covered t s) (hk : s.pending[k]? = some p)
    (hl : p.locks.any s.locked = false)
    (h : execute s.session now transport p = some (session, next, o)) :
    Covered (t ++ o) { s with session, pending := s.pending.eraseIdx k ++ next.toList } := by
  have hp := c.pending (List.mem_of_getElem? hk)
  cases p
  all_goals
    simp only [execute, Option.bind_eq_bind, Option.bind_eq_some_iff, Option.pure_def] at h
    obtain ⟨turn, ht, h⟩ := h
    have w := (c.sound ht).wellFormed
  case beginOutputSegment i stamp payload =>
    have ⟨hw, hm, hs⟩ := beginOutputSegment_state s.session now w
    have ⟨_, ht', ha⟩ := hp
    obtain rfl : turn = _ := by simpa [ht] using ht'
    cases hr : (beginOutputSegment s.session now).run turn <;> rw [hr] at hw hm hs h <;> cases h
    all_goals
      rw [List.append_nil]
      refine c.setState hl ht hw hm (hs ▸ id) fun h => (mem_resumed h).imp_right ?_
    case ok =>
      rintro ⟨⟩
      exact ⟨_, Function.update_self .., hm ▸ ha⟩
    case error => exact nofun
  case send i segment stamp payload =>
    cases h
    refine c.look (fun h => (mem_resumed h).imp_right ?_) fun h => ?_
    · intro h
      obtain ⟨receipt, -, rfl⟩ := Option.map_eq_some_iff.mp h
      trivial
    · obtain rfl := List.mem_singleton.mp h
      exact hp
  case reconcileTransportSend i receipt segment =>
    cases h
    have ⟨gs, hg, hr⟩ := TurnMutableState.receipt_received receipt segment turn.state
    rw [List.append_nil]
    refine c.setState hl ht ?_ ?_ ?_ fun h => (mem_resumed h).imp_right nofun
    · rw [hr]
      exact (TurnMutableState.Change.receipt hg).preserves_wellFormed w
    · rw [hr]
    · rw [hr]
      exact id
  case mediaFlushContext i =>
    cases h
    have ⟨_, ht', hs⟩ := hp
    obtain rfl : turn = _ := by simpa [ht] using ht'
    refine c.look (fun h => (mem_resumed h).imp_right ?_) nofun
    rintro ⟨⟩
    exact ⟨turn, ht, hs, rfl⟩
  case flushMedia i epoch throughSequence =>
    cases h
    refine c.look (fun h => (mem_resumed h).imp_right nofun) fun h => ?_
    obtain rfl := List.mem_singleton.mp h
    exact hp

end Covered

theorem step_covered (c : Covered t s) (h : machine.step s e = some (s', o)) : Covered (t ++ o) s' := by
  cases e
  case session e =>
    obtain ⟨hg, h⟩ := guard_bind_eq_some h
    obtain ⟨⟨session, o'⟩, hs, h⟩ := Option.bind_eq_some_iff.mp h
    cases h
    obtain ⟨hl, he⟩ : e.locks.any s.locked = false ∧ e.stamps = false := by simpa using hg
    refine c.move (ActiveSession.step_mediaMove c.sound he hs) (fun {i r p o} h => .inl ⟨h, ?_⟩) .inl nofun
    intro hi
    have h : s.stamping i = some (r, p, o) := h
    simp [hi, locked, h] at hl
  case deliver i input now =>
    obtain ⟨hl, h⟩ := guard_bind_eq_some h
    obtain ⟨turn, ht, h⟩ := Option.bind_eq_some_iff.mp h
    cases h
    have hl : s.locked i = false := by simpa using hl
    exact t.append_nil.symm ▸ c.deliver hl (ActiveSession.ofTurn_eq_some_iff.mp ht).left input now
  case finishStamp i =>
    obtain ⟨⟨r, p, origin⟩, hs, h⟩ := Option.bind_eq_some_iff.mp h
    obtain ⟨turn, ht, h⟩ := Option.bind_eq_some_iff.mp h
    cases h
    exact t.append_nil.symm ▸ c.finishStamp hs ht
  case interruptAndFlushMedia i =>
    obtain ⟨hl, h⟩ := guard_bind_eq_some h
    obtain ⟨turn, ht, h⟩ := Option.bind_eq_some_iff.mp h
    cases h
    have hl : s.locked i = false := by simpa using hl
    exact t.append_nil.symm ▸ c.interruptAndFlushMedia hl (ActiveSession.ofTurn_eq_some_iff.mp ht).left
  case resume k now transport =>
    obtain ⟨p, hk, h⟩ := Option.bind_eq_some_iff.mp h
    obtain ⟨hl, h⟩ := guard_bind_eq_some h
    obtain ⟨⟨session, next, o'⟩, hr, h⟩ := Option.bind_eq_some_iff.mp h
    cases h
    have hl : p.locks.any s.locked = false := by simpa using hl
    exact c.resume hk hl hr

theorem run_covered (r : machine.Run t s) : Covered t s := by
  apply r.invariant
  case hi =>
    rintro s ⟨⟨_, _, _, h⟩, hs, hp⟩
    exact ⟨fun ht => by simp [h, ActiveSession.new] at ht, by simp [hs], by simp [hp], nofun⟩
  case h => exact step_covered

theorem run_flush_covers (r : machine.Run t s) {i : TurnAddress} {flush : RealtimeMediaFlushEvent}
    (hf : .flushed i flush ∈ t) :
    (∀ {event}, .sent i event ∈ t → event.timeline.epoch = flush.epoch ∧
      ∃ through, flush.throughSequence = some through ∧ event.timeline.sequence ≤ through) ∧
    (flush.throughSequence = none → ∀ event, .sent i event ∉ t) := by
  have c := run_covered r
  have ⟨turn, ht, _, hc⟩ := c.trace hf
  have hs : ∀ {event}, .sent i event ∈ t → event.timeline.epoch = flush.epoch ∧
      ∃ through, flush.throughSequence = some through ∧ event.timeline.sequence ≤ through := by
    intro event he
    have ⟨_, ht', a⟩ := c.trace he
    obtain rfl : turn = _ := by simpa [ht] using ht'
    have ⟨q, hq, hl⟩ := a.sequence
    obtain ⟨hfe, hft⟩ := by simpa [TurnMutableState.mediaFlushContext, TurnMediaState.flushContext] using hc
    refine ⟨?_, q, hft ▸ hq, hl⟩
    cases ho : turn.state.media.origin
    case none   => simpa [ho, a.epoch] using hfe
    case some o => simpa [ho, a.epoch, (c.sound ht).origin ho] using hfe
  refine ⟨hs, fun hn event he => ?_⟩
  have ⟨_, h, _⟩ := (hs he).right
  simp [hn] at h

-- A packet that is stamped before the interrupt and sent after the flush.
theorem run_flush_covers_late : ∃ t s flush event, machine.Run t s ∧
    t = [.flushed 0 flush, .sent 0 event] ∧ event.timeline.epoch = flush.epoch ∧
    ∃ through, flush.throughSequence = some through ∧ event.timeline.sequence ≤ through := by
  let id : CanonicalId := ⟨"canonical", by decide, by decide⟩
  let persona : PersonaIdentity := ⟨id, ⟨1, by decide⟩, .digitalTwin⟩
  let audio : GeneratedAudioBuffer := ⟨[0, 0], some 16000, some 1, some .s16Le⟩
  let flush : RealtimeMediaFlushEvent := ⟨id, id, id, 1, some 1⟩
  let event : RealtimeMediaOutputEvent := ⟨id, id, id, ⟨1, 1, 40000⟩, .audio [0, 0] 16000 1 .s16Le⟩
  have ⟨t, s, r, ht⟩ := Machine.Run.exists_of_replay (m := machine)
    (p := (· = [.flushed 0 flush, .sent 0 event]))
    ⟨.new id id ⟨⟨∅⟩, none, true, .granted, false⟩, fun _ => none, []⟩
    [.session .activate, .session (.newTurn 0 id id persona), .session (.method 0 .authorize (some 10)),
      .session (.method 0 .beginProcessing (some 20)), .session (.method 0 .beginOutput (some 30)),
      .deliver 0 (.audio audio) (some 40), .finishStamp 0, .resume 0 (some 50) (.ok ()),
      .interruptAndFlushMedia 0, .resume 1 none (.ok ()), .resume 1 none (.ok ()), .resume 0 none (.ok ())]
    ⟨⟨id, id, _, rfl⟩, rfl, rfl⟩ (by decide +kernel)
  have ht : t = [.flushed 0 flush, .sent 0 event] := by simpa using ht
  have hf : .flushed 0 flush ∈ t := by simp [ht]
  have he : .sent 0 event ∈ t := by simp [ht]
  exact ⟨t, s, flush, event, r, ht, (run_flush_covers r hf).left he⟩

end MediaRuntime
