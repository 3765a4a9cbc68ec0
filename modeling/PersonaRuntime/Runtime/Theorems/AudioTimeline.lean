import PersonaRuntime.Collections.Rounding
import PersonaRuntime.Runtime.Theorems.MediaDelivery

-- An audio packet and the stamp that its turn got for it.
structure AudioPacket where
  timeline     : MediaTimelineStamp
  pcm          : List UInt8
  sampleRateHz : Nat
  channels     : Nat
  sampleFormat : PcmSampleFormat
deriving DecidableEq

namespace AudioPacket

def frames (p : AudioPacket) : Nat :=
  p.pcm.length / (p.channels * match p.sampleFormat with | .s16Le => 2)

def durationMicros (p : AudioPacket) : Nat :=
  p.frames * 1000000 / p.sampleRateHz

end AudioPacket

namespace MediaPayload

def packet (timeline : MediaTimelineStamp) : MediaPayload → Option AudioPacket
  | audio pcm sampleRateHz channels sampleFormat =>
    some { timeline, pcm, sampleRateHz, channels, sampleFormat }
  | video _ => none

theorem packet_timeline {p : MediaPayload} {timeline : MediaTimelineStamp} {a : AudioPacket}
    (h : p.packet timeline = some a) : a.timeline = timeline := by
  cases p <;> cases h
  rfl

-- A request for a stamp asks for the time that its payload takes.
def Billed (p : MediaPayload) (r : StampRequest) : Prop :=
  match r with
  | .audio duration => ∀ timeline, ∃ a, p.packet timeline = some a ∧ a.durationMicros = duration
  | .video _        => ∀ timeline, p.packet timeline = none

end MediaPayload

-- What happens to the packets of a turn: first they are given a stamp, then they are sent.
inductive DeliveryObservation
  | stamped (turn : TurnAddress) (timeline : MediaTimelineStamp) (payload : MediaPayload)
  | transport (o : TransportObservation)
deriving DecidableEq

namespace DeliveryObservation

def packet (i : TurnAddress) : DeliveryObservation → Option AudioPacket
  | stamped j timeline payload => if j = i then payload.packet timeline else none
  | transport _                => none

-- The audio packets of a turn in the order of its calls.
def packets (i : TurnAddress) (t : List DeliveryObservation) : List AudioPacket :=
  t.filterMap (packet i)

end DeliveryObservation

namespace MediaRuntime

-- What a step gives a stamp to.
def stamped (s : MediaRuntime) : MediaRuntimeEvent → Option DeliveryObservation
  | .finishStamp i => do
    let (request, payload, origin) ← s.stamping i
    let turn ← s.session.turns i
    match (TurnMutableState.finishMediaStamp request origin).run (turn.state, s.session.mediaTimeline) with
    | .error .. => none
    | .ok st _  => some (.stamped i st payload)
  | _ => none

-- The same runtime for an observer who also sees the stamps.
def deliveries : Machine MediaRuntime MediaRuntimeEvent DeliveryObservation where
  init := machine.init
  step s e := do
    let (s', o) ← machine.step s e
    return (s', (s.stamped e).toList ++ o.map .transport)

end MediaRuntime

theorem MediaTimeline.stamp_presentation {timeline timeline' : MediaTimeline} {origin : MediaTurnOrigin}
    {relativeMicros : Nat} {st : MediaTimelineStamp}
    (h : (stamp origin relativeMicros).run timeline = .ok st timeline') :
    st.presentationTimeMicros = origin.originMicros + relativeMicros := by
  by_cases he : origin.epoch = timeline.epoch
  case neg => simp [stamp, he] at h
  cases hp : checkedAdd origin.originMicros relativeMicros
  case none => simp [stamp, he, hp, okOr] at h
  case some presentation =>
    obtain ⟨-, rfl⟩ := checkedAdd_eq_some_iff.mp hp
    cases hl : timeline.lastPresentationMicros.any (origin.originMicros + relativeMicros < ·)
    case true => simp [stamp, he, hp, okOr, hl] at h
    cases hs : checkedAdd timeline.nextSequence 1
    case none => simp [stamp, he, hp, okOr, hl, hs] at h
    case some =>
      simp [stamp, he, hp, okOr, hl, hs] at h
      rw [← h.left]

namespace StampRequest

variable {r : StampRequest} {origin : MediaTurnOrigin} {turn turn' : TurnMediaState}
variable {timeline timeline' : MediaTimeline} {st : MediaTimelineStamp}

theorem audio_stamp {duration : Nat}
    (h : ((audio duration).stamp origin).run (turn, timeline) = .ok st (turn', timeline')) :
    st.presentationTimeMicros = origin.originMicros + turn.audioCursorMicros ∧
      turn'.audioCursorMicros = turn.audioCursorMicros + duration := by
  cases hs : (MediaTimeline.stamp origin turn.audioCursorMicros).run timeline
  case error => simp [stamp, TurnMediaState.onTimeline, EStateM.zoom_run, hs] at h
  case ok st₁ timeline₁ =>
    have hp := MediaTimeline.stamp_presentation hs
    cases hc : checkedAdd turn.audioCursorMicros duration
    case none => simp [stamp, TurnMediaState.onTimeline, EStateM.zoom_run, hs, hc, okOr] at h
    case some cursor =>
      obtain ⟨-, rfl⟩ := checkedAdd_eq_some_iff.mp hc
      simp only [stamp, EStateM.run_bind, EStateM.run_get, TurnMediaState.onTimeline, EStateM.zoom_run, hs,
        hc, okOr, EStateM.check_ok_run, TurnMediaState.modifyTurn, EStateM.run_modify, EStateM.run_pure] at h
      cases h
      exact ⟨hp, rfl⟩

theorem video_stamp {source : Nat}
    (h : ((video source).stamp origin).run (turn, timeline) = .ok st (turn', timeline')) :
    turn'.audioCursorMicros = turn.audioCursorMicros := by
  by_cases hb : source < turn.videoSourceBaseMicros.getD source
  case pos => simp [stamp, hb] at h
  cases hs : (MediaTimeline.stamp origin (source - turn.videoSourceBaseMicros.getD source)).run timeline
  case error => simp [stamp, hb, TurnMediaState.onTimeline, EStateM.zoom_run, hs] at h
  case ok =>
    simp only [stamp, EStateM.run_bind, EStateM.run_get, hb, if_false, TurnMediaState.onTimeline,
      EStateM.zoom_run, hs, TurnMediaState.modifyTurn, EStateM.run_modify, EStateM.run_pure] at h
    cases h
    rfl

end StampRequest

theorem checkedMul_eq {a b c : Nat} (h : checkedMul a b = some c) : c = a * b := by
  unfold checkedMul at h
  split at h <;> cases h
  rfl

theorem audioContract_frames {audio : GeneratedAudioBuffer} {rate channels duration : Nat}
    {format : PcmSampleFormat} (h : audioContract audio = some (rate, channels, format, duration))
    (timeline : MediaTimelineStamp) :
    (AudioPacket.mk timeline audio.pcm rate channels format).durationMicros = duration := by
  cases format
  simp only [audioContract, Option.bind_eq_bind, Option.bind_eq_some_iff] at h
  obtain ⟨_, _, _, _, _, _, h⟩ := h
  split at h
  case isTrue => simp at h
  obtain ⟨frameBytes, hf, h⟩ := Option.bind_eq_some_iff.mp h
  split at h
  case isTrue => simp at h
  obtain ⟨micros, hm, h⟩ := Option.bind_eq_some_iff.mp h
  cases h
  rw [AudioPacket.durationMicros, AudioPacket.frames, ← checkedMul_eq hf, ← checkedMul_eq hm]

theorem MediaInput.contract_billed {input : MediaInput} {r : StampRequest} {p : MediaPayload}
    (h : input.contract = .ok (r, p)) : p.Billed r := by
  cases input
  case audio buffer =>
    simp only [contract] at h
    cases hc : audioContract buffer <;> simp only [hc] at h <;> cases h
    exact fun timeline => ⟨_, rfl, audioContract_frames hc timeline⟩
  case video frame =>
    simp only [contract] at h
    split at h <;> cases h
    exact fun _ => rfl

-- The next audio packet of the turn gets the stamp that it would have got before.
def TurnMediaState.SameAudio (media media' : TurnMediaState) : Prop :=
  media'.audioCursorMicros = media.audioCursorMicros ∧
    ∀ {o}, media.origin = some o → media'.origin = some o

theorem TurnMediaState.SameAudio.of_eq {media media' : TurnMediaState} (h : media' = media) :
    media.SameAudio media' :=
  h ▸ ⟨rfl, id⟩

namespace ActiveSession

-- What happens to the audio of the turns where no audio packet is stamped.
def KeepsAudio (s s' : ActiveSession) : Prop :=
  ∀ i, (∃ t t', s.turns i = some t ∧ s'.turns i = some t' ∧ t.state.media.SameAudio t'.state.media) ∨
    s.turns i = none ∧ ∀ {t'}, s'.turns i = some t' → t'.state.media.audioCursorMicros = 0

variable {s s' : ActiveSession} {i : TurnAddress} {turn turn' : ActiveTurn}

theorem KeepsAudio.refl : s.KeepsAudio s := by
  intro i
  cases h : s.turns i
  case none   => exact .inr ⟨rfl, nofun⟩
  case some t => exact .inl ⟨t, t, rfl, rfl, rfl, id⟩

theorem KeepsAudio.setTurn {m : MediaTimeline} (ht : s.turns i = some turn)
    (hm : turn.state.media.SameAudio turn'.state.media) :
    s.KeepsAudio { s.setTurn i turn' with mediaTimeline := m } := by
  intro j
  by_cases hj : j = i
  case pos =>
    subst hj
    exact .inl ⟨turn, turn', ht, Function.update_self .., hm⟩
  case neg =>
    simp only [ActiveSession.setTurn, Function.update_of_ne hj]
    exact KeepsAudio.refl j

theorem step_keepsAudio {e : SessionEvent} {o : List SessionObservation} (w : s.MediaSound)
    (he : e.stamps = false) (h : machine.step s e = some (s', o)) : s.KeepsAudio s' := by
  intro i
  cases ht : s.turns i
  case none =>
    refine .inr ⟨rfl, fun {t'} ht' => ?_⟩
    cases (step_move h).turnMove ht'
    case new hs _          => rw [‹t'.state = _›]; rfl
    case kept ht₁ _ _      => simp [ht] at ht₁
    case method ht₁ _      => simp [ht] at ht₁
  case some t =>
    obtain ⟨t', ht', _⟩ := (step_advances h).forward ht
    refine .inl ⟨t, t', rfl, ht', ?_⟩
    cases (step_move h).turnMove ht'
    case new hi _      => simp [ht] at hi
    case kept ht₁ hs _ =>
      obtain rfl : _ = t := by simpa [ht] using ht₁.symm
      exact .of_eq (by rw [hs])
    case method x now hx ht₁ hs =>
      obtain rfl : _ = t := by simpa [ht] using ht₁.symm
      subst hx
      have hm := (ActiveTurn.method_media (m := s.mediaTimeline) (w ht).wellFormed he s now).left
      exact .of_eq (hs ▸ hm)

end ActiveSession

namespace MediaRuntime

open DeliveryObservation (packets)

-- The audio packets of a turn stand one behind the other, from the origin of the turn on.
structure Paced (t : List DeliveryObservation) (s : MediaRuntime) : Prop where
  covered : ∃ u, Covered u s
  billed  : ∀ {i r p o}, s.stamping i = some (r, p, o) → p.Billed r
  absent  : ∀ {i}, s.session.turns i = none → packets i t = []
  cursor  : ∀ {i turn}, s.session.turns i = some turn →
    turn.state.media.audioCursorMicros = ((packets i t).map (·.durationMicros)).sum
  stamped : ∀ {i turn earlier a later}, s.session.turns i = some turn →
    packets i t = earlier ++ a :: later → ∃ o, turn.state.media.origin = some o ∧
      a.timeline.presentationTimeMicros = o.originMicros + (earlier.map (·.durationMicros)).sum

variable {t o : List DeliveryObservation} {s s' : MediaRuntime} {i : TurnAddress} {turn : ActiveTurn}

theorem Paced.keeps {u : List TransportObservation} (p : Paced t s) (c : Covered u s')
    (hb : ∀ {i r p o}, s'.stamping i = some (r, p, o) → p.Billed r)
    (hk : s.session.KeepsAudio s'.session) (ho : ∀ i, packets i o = []) : Paced (t ++ o) s' := by
  have hp : ∀ i, packets i (t ++ o) = packets i t := by
    intro i
    have h := ho i
    simp only [packets] at h ⊢
    rw [List.filterMap_append, h, List.append_nil]
  refine ⟨⟨u, c⟩, hb, ?absent, ?cursor, ?stamped⟩ <;> intro i
  case absent =>
    intro h
    obtain ⟨t₁, t₂, h₁, h₂, _⟩ | ⟨h₁, _⟩ := hk i
    · simp [h] at h₂
    · rw [hp, p.absent h₁]
  case cursor =>
    intro turn h
    obtain ⟨t₁, t₂, h₁, h₂, hm⟩ | ⟨h₁, hz⟩ := hk i
    · obtain rfl : t₂ = turn := by simpa [h] using h₂.symm
      rw [hp, hm.left, p.cursor h₁]
    · rw [hp, p.absent h₁, hz h]
      rfl
  case stamped =>
    intro turn earlier a later h hs
    rw [hp] at hs
    obtain ⟨t₁, t₂, h₁, h₂, hm⟩ | ⟨h₁, _⟩ := hk i
    · obtain rfl : t₂ = turn := by simpa [h] using h₂.symm
      obtain ⟨origin, ho, ha⟩ := p.stamped h₁ hs
      exact ⟨origin, hm.right ho, ha⟩
    · simp [p.absent h₁] at hs

theorem billed_update {r : StampRequest} {payload : MediaPayload} {origin : MediaTurnOrigin}
    (p : Paced t s) {x : Option (StampRequest × MediaPayload × MediaTurnOrigin)}
    (hx : ∀ {r p o}, x = some (r, p, o) → p.Billed r) {j : TurnAddress}
    (h : Function.update s.stamping i x j = some (r, payload, origin)) : payload.Billed r := by
  by_cases hj : j = i
  case pos => exact hx (by simpa [hj] using h)
  case neg => exact p.billed (by simpa [hj] using h)

-- One more packet behind those that the turn has.
theorem Paced.audio {u : List TransportObservation} {turn' : ActiveTurn} {origin : MediaTurnOrigin}
    {payload : MediaPayload} {timeline : MediaTimelineStamp} {a : AudioPacket} (p : Paced t s)
    (c : Covered u s') (hb : ∀ {i r p o}, s'.stamping i = some (r, p, o) → p.Billed r)
    (ht : s.session.turns i = some turn)
    (hs : s'.session.turns = Function.update s.session.turns i (some turn'))
    (ha : payload.packet timeline = some a) (hl : a.timeline = timeline)
    (hg : turn.state.media.origin = some origin) (hg' : turn'.state.media.origin = some origin)
    (hp : timeline.presentationTimeMicros = origin.originMicros + turn.state.media.audioCursorMicros)
    (hc : turn'.state.media.audioCursorMicros =
      turn.state.media.audioCursorMicros + a.durationMicros) :
    Paced (t ++ [.stamped i timeline payload]) s' := by
  have hi : packets i (t ++ [.stamped i timeline payload]) = packets i t ++ [a] := by
    simp [packets, DeliveryObservation.packet, ha]
  have hj : ∀ {j}, j ≠ i → packets j (t ++ [.stamped i timeline payload]) = packets j t := by
    intro j hj
    simp [packets, DeliveryObservation.packet, hj.symm]
  refine ⟨⟨u, c⟩, hb, ?absent, ?cursor, ?stamped⟩ <;> intro j <;> rw [hs]
  case absent =>
    intro hn
    by_cases h : j = i
    case pos => simp [h] at hn
    case neg => rw [hj h, p.absent (by simpa [h] using hn)]
  case cursor =>
    intro turn₁ h₁
    by_cases h : j = i
    case pos =>
      obtain rfl : turn' = turn₁ := by simpa [h] using h₁
      rw [h, hi, hc, p.cursor ht]
      simp
    case neg => rw [hj h, p.cursor (by simpa [h] using h₁)]
  case stamped =>
    intro turn₁ earlier b later h₁ hs
    by_cases h : j = i
    case pos =>
      obtain rfl : turn' = turn₁ := by simpa [h] using h₁
      rw [h, hi] at hs
      obtain ⟨-, rfl, rfl⟩ | ⟨later', -, hs⟩ := Machine.split_snoc hs
      · exact ⟨origin, hg', by rw [hl, hp, p.cursor ht]⟩
      · obtain ⟨o, ho, hb⟩ := p.stamped ht hs
        exact ⟨o, hg'.trans (hg.symm.trans ho), hb⟩
    case neg =>
      rw [hj h] at hs
      exact p.stamped (by simpa [h] using h₁) hs

theorem Paced.finishStamp {u : List TransportObservation} {r : StampRequest} {payload : MediaPayload}
    {origin : MediaTurnOrigin} (p : Paced t s) (c : Covered u (s.finishStamp i turn r payload origin))
    (hs : s.stamping i = some (r, payload, origin)) (ht : s.session.turns i = some turn) :
    Paced (t ++ (s.stamped (.finishStamp i)).toList) (s.finishStamp i turn r payload origin) := by
  have hg : turn.state.media.origin = some origin := by
    obtain ⟨_, cs⟩ := p.covered
    obtain ⟨turn₁, h₁, _, ho⟩ := cs.stamping hs
    obtain rfl : turn = turn₁ := by simpa [ht] using h₁
    exact ho
  have ho := r.stamp_run origin turn.state.media s.session.mediaTimeline
  simp only [MediaRuntime.stamped, hs, ht, Option.bind_eq_bind, Option.bind_some]
  simp only [MediaRuntime.finishStamp, TurnMutableState.finishMediaStamp, EStateM.zoom_run] at c ⊢
  cases hr : (r.stamp origin).run (turn.state.media, s.session.mediaTimeline)
  case error e m =>
    rw [hr] at ho
    simp only [hr] at c ⊢
    have hm : m.1 = turn.state.media := by cases ho <;> rfl
    exact p.keeps c (billed_update p (by simp)) (.setTurn ht (.of_eq hm)) fun _ => rfl
  case ok st m =>
    rw [hr] at ho
    simp only [hr] at c ⊢
    cases ho
    case stamped media' timeline' hm hc =>
      have hb := p.billed hs
      cases r
      case audio duration =>
        obtain ⟨a, ha, hd⟩ := hb st
        obtain ⟨hp, hu⟩ := StampRequest.audio_stamp hr
        exact p.audio c (billed_update p (by simp)) ht rfl ha (MediaPayload.packet_timeline ha) hg
          (hc.origin.trans hg) hp (hd ▸ hu)
      case video source =>
        have hk : turn.state.media.SameAudio media' :=
          ⟨StampRequest.video_stamp hr, fun h => hc.origin.trans h⟩
        refine p.keeps c (billed_update p (by simp)) (.setTurn ht hk) fun j => ?_
        simp [packets, DeliveryObservation.packet, hb st]

theorem execute_keepsAudio {u : List TransportObservation} {step : MediaStep} {now : Option Nat}
    {transport : Except TransportErrorKind Unit} {session : ActiveSession} {next : Option MediaStep}
    {o : List TransportObservation} (c : Covered u s)
    (h : execute s.session now transport step = some (session, next, o)) :
    s.session.KeepsAudio session := by
  cases step
  all_goals
    simp only [execute, Option.bind_eq_bind, Option.bind_eq_some_iff, Option.pure_def] at h
    obtain ⟨turn, ht, h⟩ := h
  case beginOutputSegment i stamp payload =>
    obtain ⟨_, hm, _⟩ := beginOutputSegment_state s.session now (c.sound ht).wellFormed
    cases hr : (beginOutputSegment s.session now).run turn <;> rw [hr] at hm h <;> cases h
    all_goals exact .setTurn ht (.of_eq hm)
  case reconcileTransportSend i receipt segment =>
    cases h
    obtain ⟨gs, _, hr⟩ := TurnMutableState.receipt_received receipt segment turn.state
    exact .setTurn ht (.of_eq (by rw [hr]))
  all_goals
    cases h
    exact .refl

theorem deliver_keepsAudio (ht : s.session.turns i = some turn) (input : MediaInput) (now : Option Nat) :
    s.session.KeepsAudio (s.deliver i turn input now).session := by
  obtain h | ⟨_, r, p, origin, ho, h⟩ := deliver_cases ht input now <;> rw [h]
  case inl => exact .refl
  refine .setTurn ht ⟨rfl, fun {o} h => ?_⟩
  cases ho
  case before ho    => exact ho.symm.trans h
  case now hn _ _ _ => simp [hn] at h

theorem deliver_billed (p : Paced t s) {input : MediaInput} {now : Option Nat} {j : TurnAddress}
    {r : StampRequest} {payload : MediaPayload} {origin : MediaTurnOrigin}
    (h : (s.deliver i turn input now).stamping j = some (r, payload, origin)) : payload.Billed r := by
  simp only [MediaRuntime.deliver] at h
  split at h
  case h_2 => exact p.billed h
  case h_1 r₁ payload₁ now hc =>
    split at h
    case h_1 => exact p.billed h
    case h_2 =>
      refine billed_update p (fun {r p o} hx => ?_) h
      cases hx
      exact MediaInput.contract_billed hc

theorem interruptAndFlushMedia_keepsAudio {u : List TransportObservation} (c : Covered u s)
    (ht : s.session.turns i = some turn) :
    s.session.KeepsAudio (s.interruptAndFlushMedia i turn).session ∧
      (s.interruptAndFlushMedia i turn).stamping = s.stamping := by
  have hr := ActiveTurn.interrupt_run (m := s.session.mediaTimeline) (c.sound ht).wellFormed
  cases hi : turn.state.state.interruptible <;>
    simp only [hi, if_true, Bool.false_eq_true, if_false] at hr
  all_goals
    simp only [MediaRuntime.interruptAndFlushMedia, hr]
    exact ⟨.setTurn ht (.of_eq rfl), trivial⟩

theorem Paced.step {e : MediaRuntimeEvent} (p : Paced t s) (h : deliveries.step s e = some (s', o)) :
    Paced (t ++ o) s' := by
  obtain ⟨⟨s₁, o₁⟩, hs, h⟩ := Option.bind_eq_some_iff.mp h
  cases h
  obtain ⟨u, cs⟩ := p.covered
  have c := step_covered cs hs
  have hz : ∀ i, packets i (o₁.map .transport) = [] := by
    intro i
    simp [packets, DeliveryObservation.packet, List.filterMap_map]
  cases e
  case session e =>
    obtain ⟨hg, hs⟩ := guard_bind_eq_some hs
    obtain ⟨⟨session, o'⟩, hv, hs⟩ := Option.bind_eq_some_iff.mp hs
    cases hs
    obtain ⟨-, he⟩ : e.locks.any s.locked = false ∧ e.stamps = false := by simpa using hg
    exact p.keeps c p.billed (ActiveSession.step_keepsAudio cs.sound he hv) hz
  case deliver i input now =>
    obtain ⟨-, hs⟩ := guard_bind_eq_some hs
    obtain ⟨turn, ht, hs⟩ := Option.bind_eq_some_iff.mp hs
    cases hs
    have ht := (ActiveSession.ofTurn_eq_some_iff.mp ht).left
    exact p.keeps c (deliver_billed p) (deliver_keepsAudio ht input now) fun _ => rfl
  case finishStamp i =>
    obtain ⟨⟨r, payload, origin⟩, hi, hs⟩ := Option.bind_eq_some_iff.mp hs
    obtain ⟨turn, ht, hs⟩ := Option.bind_eq_some_iff.mp hs
    cases hs
    rw [List.map_nil, List.append_nil]
    exact p.finishStamp c hi ht
  case interruptAndFlushMedia i =>
    obtain ⟨-, hs⟩ := guard_bind_eq_some hs
    obtain ⟨turn, ht, hs⟩ := Option.bind_eq_some_iff.mp hs
    cases hs
    obtain ⟨hk, hb⟩ := interruptAndFlushMedia_keepsAudio cs (ActiveSession.ofTurn_eq_some_iff.mp ht).left
    exact p.keeps c (by rw [hb]; exact p.billed) hk fun _ => rfl
  case resume k now transport =>
    obtain ⟨step, hk, hs⟩ := Option.bind_eq_some_iff.mp hs
    obtain ⟨-, hs⟩ := guard_bind_eq_some hs
    obtain ⟨⟨session, next, o'⟩, hr, hs⟩ := Option.bind_eq_some_iff.mp hs
    cases hs
    exact p.keeps c p.billed (execute_keepsAudio cs hr) hz

theorem run_paced (r : deliveries.Run t s) : Paced t s := by
  apply r.invariant
  case hi =>
    intro s h
    have c := run_covered (.intro h .refl)
    obtain ⟨⟨_, _, _, h⟩, hs, -⟩ := h
    exact ⟨⟨_, c⟩, by simp [hs], fun _ => rfl, fun ht => by simp [h, ActiveSession.new] at ht,
      fun ht => by simp [h, ActiveSession.new] at ht⟩
  case h => exact Paced.step

-- The stamp that a call carries to the transport is the one that it was given.
def Announced (t : List DeliveryObservation) : MediaStep → Prop
  | .beginOutputSegment i st payload | .send i _ st payload => .stamped i st payload ∈ t
  | _ => True

structure Carried (t : List DeliveryObservation) (s : MediaRuntime) : Prop where
  pending : ∀ {p}, p ∈ s.pending → Announced t p
  sent    : ∀ {i event}, .transport (.sent i event) ∈ t → .stamped i event.timeline event.payload ∈ t

theorem Announced.append {p : MediaStep} (h : Announced t p) : Announced (t ++ o) p := by
  cases p
  case beginOutputSegment | send => exact List.mem_append_left o h
  all_goals trivial

theorem Carried.keeps (c : Carried t s)
    (hp : ∀ {p}, p ∈ s'.pending → p ∈ s.pending ∨ Announced (t ++ o) p)
    (ho : ∀ {i event}, .transport (.sent i event) ∈ o →
      .stamped i event.timeline event.payload ∈ t) : Carried (t ++ o) s' where
  pending h := (hp h).elim (fun h => (c.pending h).append) id
  sent h    := List.mem_append_left o <| (List.mem_append.mp h).elim c.sent ho

theorem execute_announced {session session' : ActiveSession} {p : MediaStep} {now : Option Nat}
    {transport : Except TransportErrorKind Unit} {next : Option MediaStep} {u : List TransportObservation}
    (h : execute session now transport p = some (session', next, u)) (hp : Announced t p) :
    (∀ {q}, next = some q → Announced t q) ∧
    ∀ {i event}, .sent i event ∈ u → .stamped i event.timeline event.payload ∈ t := by
  cases p
  all_goals
    simp only [execute, Option.bind_eq_bind, Option.bind_eq_some_iff, Option.pure_def] at h
    obtain ⟨turn, ht, h⟩ := h
  case beginOutputSegment =>
    cases hr : (MediaRuntime.beginOutputSegment session now).run turn <;> rw [hr] at h <;> cases h
    case error => exact ⟨by simp, by simp⟩
    case ok =>
      refine ⟨?_, by simp⟩
      rintro _ ⟨⟩
      exact hp
  case send =>
    cases h
    refine ⟨fun {q} h => ?_, fun {i event} h => ?_⟩
    · obtain ⟨_, -, rfl⟩ := Option.map_eq_some_iff.mp h
      trivial
    · obtain ⟨rfl, rfl⟩ := by simpa using h
      exact hp
  case reconcileTransportSend | flushMedia =>
    cases h
    exact ⟨by simp, by simp⟩
  case mediaFlushContext =>
    cases h
    refine ⟨?_, by simp⟩
    rintro _ ⟨⟩
    trivial

theorem Carried.step {e : MediaRuntimeEvent} (c : Carried t s) (h : deliveries.step s e = some (s', o)) :
    Carried (t ++ o) s' := by
  obtain ⟨⟨s₁, o₁⟩, hs, h⟩ := Option.bind_eq_some_iff.mp h
  cases h
  cases e
  case session e =>
    obtain ⟨-, hs⟩ := guard_bind_eq_some hs
    obtain ⟨_, -, hs⟩ := Option.bind_eq_some_iff.mp hs
    cases hs
    exact c.keeps .inl (by simp [stamped])
  case deliver i input now =>
    obtain ⟨-, hs⟩ := guard_bind_eq_some hs
    obtain ⟨turn, ht, hs⟩ := Option.bind_eq_some_iff.mp hs
    cases hs
    refine c.keeps (fun {p} hp => .inl ?_) (by simp [stamped])
    simp only [MediaRuntime.deliver] at hp
    split at hp
    · split at hp <;> exact hp
    · exact hp
  case finishStamp i =>
    obtain ⟨⟨r, payload, origin⟩, hi, hs⟩ := Option.bind_eq_some_iff.mp hs
    obtain ⟨turn, ht, hs⟩ := Option.bind_eq_some_iff.mp hs
    cases hs
    simp only [stamped, hi, ht, Option.bind_eq_bind, Option.bind_some, MediaRuntime.finishStamp]
    cases (TurnMutableState.finishMediaStamp r origin).run (turn.state, s.session.mediaTimeline)
    case error => exact c.keeps .inl (by simp)
    case ok st m =>
      refine c.keeps (fun {p} hp => ?_) (by simp)
      obtain hp | rfl : p ∈ s.pending ∨ p = .beginOutputSegment i st payload := by simpa using hp
      · exact .inl hp
      · exact .inr <| List.mem_append_right t (by simp)
  case interruptAndFlushMedia i =>
    obtain ⟨-, hs⟩ := guard_bind_eq_some hs
    obtain ⟨turn, ht, hs⟩ := Option.bind_eq_some_iff.mp hs
    cases hs
    refine c.keeps (fun {p} hp => ?_) (by simp [stamped])
    simp only [MediaRuntime.interruptAndFlushMedia] at hp
    split at hp
    case h_1 => exact .inl hp
    case h_2 =>
      obtain hp | rfl : p ∈ s.pending ∨ p = .mediaFlushContext i := by simpa using hp
      · exact .inl hp
      · exact .inr trivial
  case resume k now transport =>
    obtain ⟨p, hk, hs⟩ := Option.bind_eq_some_iff.mp hs
    obtain ⟨-, hs⟩ := guard_bind_eq_some hs
    obtain ⟨⟨session, next, o'⟩, hr, hs⟩ := Option.bind_eq_some_iff.mp hs
    cases hs
    obtain ⟨hn, hu⟩ := execute_announced hr (c.pending (List.mem_of_getElem? hk))
    refine c.keeps (fun {q} hq => ?_) fun h => ?_
    · obtain hq | hq := Covered.mem_resumed hq
      · exact .inl hq
      · exact .inr (hn hq).append
    · have hz : s.stamped (.resume k now transport) = none := rfl
      exact hu (by simpa [hz] using h)

-- Everything that is sent was stamped with the same stamp before.
theorem run_sent_stamped (r : deliveries.Run t s) {event : RealtimeMediaOutputEvent}
    (h : .transport (.sent i event) ∈ t) : .stamped i event.timeline event.payload ∈ t := by
  have c : Carried t s := by
    apply r.invariant
    case hi =>
      rintro s ⟨-, -, hp⟩
      exact ⟨by simp [hp], by simp⟩
    case h => exact Carried.step
  exact c.sent h

-- Where the audio packets of a turn belong: no packet is moved by how those before it were cut.
def Exact (packets : List AudioPacket) (origin rate : Nat) : Prop :=
  ∀ earlier a later, packets = earlier ++ a :: later →
    a.timeline.presentationTimeMicros = origin + (earlier.map (·.frames)).sum * 1000000 / rate

theorem run_audio_exact_iff (r : deliveries.Run t s) (ht : s.session.turns i = some turn)
    {origin : MediaTurnOrigin} (ho : turn.state.media.origin = some origin) {rate : Nat} (hr : 0 < rate)
    (hs : ∀ a ∈ packets i t, a.sampleRateHz = rate) :
    Exact (packets i t) origin.originMicros rate ↔
      ((packets i t).dropLast.map (fun a => a.frames * 1000000 % rate)).sum < rate := by
  have p := run_paced r
  -- The microseconds of the frames, each times the sample rate.
  let micros (a : AudioPacket) : Nat := a.frames * 1000000
  have hd : ∀ {earlier a later}, packets i t = earlier ++ a :: later →
      (earlier.map (·.durationMicros)).sum = ((earlier.map micros).map (· / rate)).sum := by
    intro earlier a later h
    rw [List.map_map]
    congr 1
    apply List.map_congr_left
    intro b hb
    rw [AudioPacket.durationMicros, hs b (by simp [h, hb])]
    rfl
  have hf : ∀ l : List AudioPacket, (l.map (·.frames)).sum * 1000000 = (l.map micros).sum := by
    intro l
    induction l
    case nil         => simp
    case cons a l hi => simp only [List.map_cons, List.sum_cons, Nat.add_mul, hi, micros]
  have hm := List.forall_sum_div_eq_iff hr ((packets i t).map micros)
  rw [← List.map_dropLast, List.map_map] at hm
  refine Iff.trans ?_ hm
  constructor
  case mp =>
    intro he earlier x later h
    obtain ⟨earlier, rest, hp, rfl, hx⟩ := List.map_eq_append_iff.mp h
    obtain ⟨a, later, rfl, -, -⟩ := List.map_eq_cons_iff.mp hx
    have ha := he earlier a later hp
    obtain ⟨o, ho', hs⟩ := p.stamped ht hp
    obtain rfl : o = origin := by simpa [ho] using ho'.symm
    rw [hs, hd hp, hf] at ha
    omega
  case mpr =>
    intro h earlier a later hp
    obtain ⟨o, ho', hs⟩ := p.stamped ht hp
    obtain rfl : o = origin := by simpa [ho] using ho'.symm
    rw [hs, hd hp, hf, h (earlier.map micros) (micros a) (later.map micros) (by simp [hp])]

-- A packet of one frame at 44100 Hz, from the call to the receipt of the transport.
def sendFrame : List MediaRuntimeEvent := [
  .deliver 0 (.audio ⟨[0, 0], some 44100, some 1, some .s16Le⟩) (some 40), .finishStamp 0,
  .resume 0 (some 50) (.ok ()), .resume 0 (some 50) (.ok ()), .resume 0 (some 50) (.ok ())]

def frameSent (id : CanonicalId) (timeline : MediaTimelineStamp) : List DeliveryObservation := [
  .stamped 0 timeline (.audio [0, 0] 44100 1 .s16Le),
  .transport (.sent 0 ⟨id, id, id, timeline, .audio [0, 0] 44100 1 .s16Le⟩)]

theorem canonicalId_nonblank : isBlank "canonical" = false := by
  decide

theorem canonicalId_bounded : "canonical".length ≤ maxCanonicalIdChars := by
  decide

def canonicalId : CanonicalId :=
  ⟨"canonical", canonicalId_nonblank, canonicalId_bounded⟩

def threeFrames : List DeliveryObservation :=
  frameSent canonicalId ⟨1, 1, 40000⟩ ++ frameSent canonicalId ⟨1, 2, 40022⟩ ++
    frameSent canonicalId ⟨1, 3, 40044⟩

def threePackets : List AudioPacket := [
  ⟨⟨1, 1, 40000⟩, [0, 0], 44100, 1, .s16Le⟩, ⟨⟨1, 2, 40022⟩, [0, 0], 44100, 1, .s16Le⟩,
  ⟨⟨1, 3, 40044⟩, [0, 0], 44100, 1, .s16Le⟩]

theorem packets_threeFrames : packets 0 threeFrames = threePackets :=
  rfl

theorem threeFrames_run : ∃ s turn, deliveries.Run threeFrames s ∧ s.pending = [] ∧
    s.session.turns 0 = some turn ∧ turn.state.media.origin = some ⟨1, 40000⟩ := by
  let id := canonicalId
  let persona : PersonaIdentity := ⟨id, ⟨1, by decide⟩, .digitalTwin⟩
  let s₀ : MediaRuntime := ⟨.new id id ⟨⟨∅⟩, none, true, .granted, false⟩, fun _ => none, []⟩
  have hr : ∃ t s, deliveries.Steps s₀ t s ∧ (s.pending.isEmpty && decide (t = threeFrames) &&
      decide ((s.session.turns 0).map (·.state.media.origin) = some (some ⟨1, 40000⟩))) = true :=
    Machine.Steps.exists_of_replay_any
      ([.session .activate, .session (.newTurn 0 id id persona), .session (.method 0 .authorize (some 10)),
        .session (.method 0 .beginProcessing (some 20)), .session (.method 0 .beginOutput (some 30))] ++
        sendFrame ++ sendFrame ++ sendFrame) (by decide +kernel)
  obtain ⟨t, s, e, hp⟩ := hr
  obtain ⟨⟨hq, rfl⟩, turn, hs, ho⟩ : (s.pending = [] ∧ t = threeFrames) ∧ _ := by simpa using hp
  exact ⟨s, turn, ⟨⟨⟨id, id, _, rfl⟩, rfl, rfl⟩, e⟩, hq, hs, ho⟩

-- Of three frames that are sent one by one the third is a microsecond early. All the calls succeed.
theorem audio_drifts : ∃ t s turn origin, deliveries.Run t s ∧ s.pending = [] ∧
    s.session.turns 0 = some turn ∧ turn.state.media.origin = some origin ∧
    (∀ a ∈ packets 0 t, a.sampleRateHz = 44100) ∧
    (∀ a ∈ packets 0 t, ∃ event, .transport (.sent 0 event) ∈ t ∧ event.timeline = a.timeline) ∧
    ¬Exact (packets 0 t) origin.originMicros 44100 := by
  obtain ⟨s, turn, r, hq, hs, ho⟩ := threeFrames_run
  refine ⟨_, s, turn, _, r, hq, hs, ho, ?_, ?_, ?_⟩
  all_goals rw [packets_threeFrames]
  · simp [threePackets]
  · simp [threePackets, threeFrames, frameSent]
  · intro h
    have h := h _ _ [] (List.append_cons [_, _] _ []).symm
    simp [AudioPacket.frames] at h

theorem run_audio_exact_iff_threeFrames : ∃ s turn origin, deliveries.Run threeFrames s ∧
    s.session.turns 0 = some turn ∧ turn.state.media.origin = some origin ∧
    (Exact (packets 0 threeFrames) origin.originMicros 44100 ↔
      ((packets 0 threeFrames).dropLast.map (fun a => a.frames * 1000000 % 44100)).sum < 44100) := by
  obtain ⟨s, turn, r, -, hs, ho⟩ := threeFrames_run
  refine ⟨s, turn, _, r, hs, ho, run_audio_exact_iff r hs ho (by decide) ?_⟩
  rw [packets_threeFrames]
  simp [threePackets]

end MediaRuntime
