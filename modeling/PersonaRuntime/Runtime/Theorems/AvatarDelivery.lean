import PersonaRuntime.Runtime.AvatarDelivery
import PersonaRuntime.Integration.Theorems.GeneratedAudio

namespace PcmStreamCall

def IsFailedOpen : PcmStreamCall → Prop
  | openPcmStream _ _ (.error _) => True
  | _                            => False

def IsPush : PcmStreamCall → Prop
  | pushPcm _ _ => True
  | _           => False

-- The stream was opened, perhaps not in the first attempt, and was pushed to after that.
inductive Opened : List PcmStreamCall → Prop
  | intro {tried pushes : List PcmStreamCall} {rate channels : Nat} : (∀ call ∈ tried, call.IsFailedOpen) →
    (∀ call ∈ pushes, call.IsPush) → Opened (tried ++ openPcmStream rate channels (.ok ()) :: pushes)

-- A stream that was opened is closed, once and behind everything else. One that was not gets nothing.
inductive Settled : List PcmStreamCall → Prop
  | unopened {calls : List PcmStreamCall} : (∀ call ∈ calls, call.IsFailedOpen) → Settled calls
  | finished {calls : List PcmStreamCall} : Opened calls → Settled (calls ++ [finish (.ok ())])
  | failed {calls : List PcmStreamCall} {error : ProviderError} : Opened calls →
    Settled (calls ++ [finish (.error error), abort])
  | aborted {calls : List PcmStreamCall} : Opened calls → Settled (calls ++ [abort])

theorem Opened.push {calls : List PcmStreamCall} {pcm : List UInt8} {answer : Except ProviderError Unit}
    (h : Opened calls) : Opened (calls ++ [pushPcm pcm answer]) := by
  obtain ⟨ht, hp⟩ := h
  rw [List.append_assoc, List.cons_append]
  refine .intro ht ?_
  simpa [or_imp, forall_and] using ⟨hp, trivial⟩

end PcmStreamCall

open PcmStreamCall

namespace PcmPublication

variable {s s' : PcmPublication} {p : TtsPush}

structure Sound (s : PcmPublication) : Prop where
  waiting : s.published = false → ∀ call ∈ s.calls, call.IsFailedOpen
  opened  : s.published = true → Opened s.calls

-- A push went through.
structure Started (s : PcmPublication) : Prop where
  published           : s.published = true
  firstPcmMillis      : s.firstPcmMillis = true
  firstEchoSendMillis : s.firstEchoSendMillis = true

-- What a call of the callback can do
theorem send_cases (s : PcmPublication) (p : TtsPush) :
    (send p).run s = .error .cancelled s ∨
    (∃ error, s.published = false ∧ (send p).run s = .error error
      { s with
        firstPcmMillis := true
        calls          := s.calls ++ [openPcmStream p.chunk.sampleRateHz p.chunk.channels (.error error)] }) ∨
    ∃ answer : Except ProviderError Unit, let calls := if s.published then s.calls else
        s.calls ++ [openPcmStream p.chunk.sampleRateHz p.chunk.channels (.ok ())]
      (send p).run s =
        match answer with
        | .ok ()       => .ok () ⟨calls ++ [pushPcm p.chunk.pcm (.ok ())], true, true, true⟩
        | .error error => .error error
          ⟨calls ++ [pushPcm p.chunk.pcm (.error error)], true, true, s.firstEchoSendMillis⟩ := by
  obtain ⟨calls, published, firstPcmMillis, firstEchoSendMillis⟩ := s
  obtain ⟨chunk, cancelled, opened, pushed⟩ := p
  cases cancelled
  case true => exact .inl rfl
  case false =>
    cases published
    case true =>
      refine .inr (.inr ⟨pushed, ?_⟩)
      cases pushed <;> rfl
    case false =>
      cases opened
      case error error => exact .inr (.inl ⟨error, rfl, rfl⟩)
      case ok =>
        refine .inr (.inr ⟨pushed, ?_⟩)
        cases pushed <;> rfl

theorem send_sound (h : s.Sound) : ((send p).run s).state.Sound := by
  obtain hr | ⟨error, hn, hr⟩ | ⟨answer, hr⟩ := send_cases s p <;> rw [hr]
  case inl => exact h
  case inr.inl =>
    refine ⟨fun _ => ?_, fun hp => absurd hp (by simp [hn])⟩
    simpa [or_imp, forall_and] using ⟨h.waiting hn, trivial⟩
  case inr.inr =>
    have ho : Opened (if s.published then s.calls else
        s.calls ++ [openPcmStream p.chunk.sampleRateHz p.chunk.channels (.ok ())]) := by
      split
      case isTrue hp  => exact h.opened hp
      case isFalse hp => exact .intro (h.waiting (Bool.eq_false_iff.mpr hp)) (by simp)
    cases answer
    case ok    => exact ⟨fun hp => absurd hp (by simp), fun _ => ho.push⟩
    case error => exact ⟨fun hp => absurd hp (by simp), fun _ => ho.push⟩

theorem send_started (h : s.Started) : ((send p).run s).state.Started := by
  obtain hr | ⟨error, hn, hr⟩ | ⟨answer, hr⟩ := send_cases s p <;> rw [hr]
  case inl     => exact h
  case inr.inl => exact absurd h.published (by simp [hn])
  case inr.inr =>
    cases answer
    case ok    => exact ⟨rfl, rfl, rfl⟩
    case error => exact ⟨rfl, rfl, h.firstEchoSendMillis⟩

theorem send_eq_ok (h : (send p).run s = .ok () s') :
    s'.Started ∧ s'.calls = (if s.published then s.calls else
      s.calls ++ [openPcmStream p.chunk.sampleRateHz p.chunk.channels (.ok ())]) ++ [pushPcm p.chunk.pcm (.ok ())] := by
  obtain hr | ⟨error, hn, hr⟩ | ⟨answer, hr⟩ := send_cases s p <;> rw [hr] at h
  case inl     => cases h
  case inr.inl => cases h
  case inr.inr =>
    cases answer <;> cases h
    exact ⟨⟨rfl, rfl, rfl⟩, rfl⟩

end PcmPublication

namespace PcmDelivery

variable {s s' : PcmDelivery} {p : TtsPush}

structure Sound (s : PcmDelivery) : Prop where
  publication : s.publication.Sound
  received    : s.sink.bytes ≠ 0 → s.publication.Started

-- What a push of the synthesis can do
theorem push_cases (s : PcmDelivery) (p : TtsPush) :
    (push p).run s = .error .invalidResponse s ∨
    p.chunk.Admitted s.sink.rate s.sink.channels s.sink.bytes ∧ (push p).run s =
      match (PcmPublication.send p).run s.publication with
      | .ok () publication   => .ok () ⟨s.sink.pushed p.chunk, publication⟩
      | .error e publication => .error e ⟨s.sink, publication⟩ := by
  have hq : (push p).run s = push p s := rfl
  rw [hq, push]
  obtain ⟨ha, hr⟩ | ⟨-, hr⟩ := s.sink.push_run p.chunk (.ok ()) <;> rw [hr]
  case inr => exact .inl rfl
  case inl =>
    refine .inr ⟨ha, ?_⟩
    cases (PcmPublication.send p).run s.publication
    case ok => rfl
    case error e publication =>
      obtain ⟨-, hr⟩ | ⟨-, hr⟩ := s.sink.push_run p.chunk (.error e)
      all_goals simp [hr, EStateM.Result.state]

theorem push_sound (h : s.Sound) : ((push p).run s).state.Sound := by
  obtain hr | ⟨-, hr⟩ := push_cases s p <;> rw [hr]
  case inl => exact h
  case inr =>
    have hs : ((PcmPublication.send p).run s.publication).state.Sound := PcmPublication.send_sound h.publication
    cases hx : (PcmPublication.send p).run s.publication <;> rw [hx] at hs
    case ok    => exact ⟨hs, fun _ => (PcmPublication.send_eq_ok hx).1⟩
    case error =>
      refine ⟨hs, fun hb => ?_⟩
      have ht := PcmPublication.send_started (p := p) (h.received hb)
      rwa [hx] at ht

theorem push_eq_ok (h : (push p).run s = .ok () s') :
    p.chunk.Admitted s.sink.rate s.sink.channels s.sink.bytes ∧ s'.sink = s.sink.pushed p.chunk ∧
      (PcmPublication.send p).run s.publication = .ok () s'.publication := by
  obtain hr | ⟨ha, hr⟩ := push_cases s p <;> rw [hr] at h
  case inl => cases h
  case inr =>
    cases hx : (PcmPublication.send p).run s.publication <;> rw [hx] at h <;> cases h
    exact ⟨ha, rfl, rfl⟩

end PcmDelivery

-- Calls that all succeed
theorem pushAll_cons_ok {ε σ κ : Type} {push : κ → EStateM ε σ Unit} {c : κ} {cs : List κ} {s : σ}
    (h : ∀ answer ∈ (pushAll push (c :: cs) s).1, answer = .ok ()) :
    ∃ s', (push c).run s = .ok () s' ∧ (pushAll push (c :: cs) s).2 = (pushAll push cs s').2 ∧
      ∀ answer ∈ (pushAll push cs s').1, answer = .ok () := by
  rw [pushAll] at h ⊢
  obtain ⟨hx, h⟩ := List.forall_mem_cons.mp h
  cases hs : (push c).run s <;> rw [hs] at hx h
  case ok s' => exact ⟨s', rfl, rfl, h⟩
  case error => cases hx

namespace PcmDelivery

-- A synthesis all of whose pushes go through, behind one that opened the stream
theorem pushAll_ok {ps : List TtsPush} {rate channels : Nat} (hp : s.publication.published = true)
    (hr : s.sink.rate = some rate) (hc : s.sink.channels = some channels)
    (ha : ∀ answer ∈ (pushAll push ps s).1, answer = .ok ()) :
    (∀ p ∈ ps, p.chunk.sampleRateHz = rate ∧ p.chunk.channels = channels) ∧
      (pushAll push ps s).2.publication.calls =
        s.publication.calls ++ ps.map fun p => pushPcm p.chunk.pcm (.ok ()) := by
  induction ps generalizing s
  case nil => simp [pushAll]
  case cons p ps hi =>
    obtain ⟨s', hs, he, ha⟩ := pushAll_cons_ok ha
    obtain ⟨a, hk, hy⟩ := push_eq_ok hs
    obtain ⟨ht, hcalls⟩ := PcmPublication.send_eq_ok hy
    obtain rfl : rate = p.chunk.sampleRateHz := by simpa [hr] using a.rate
    obtain rfl : channels = p.chunk.channels := by simpa [hc] using a.channels
    obtain ⟨hf, hcalls'⟩ := hi ht.published (by rw [hk]; rfl) (by rw [hk]; rfl) ha
    refine ⟨List.forall_mem_cons.mpr ⟨⟨rfl, rfl⟩, hf⟩, ?_⟩
    simp [he, hcalls', hcalls, hp]

-- The sink of such a synthesis holds what a buffer would.
theorem pushAll_audio {ps : List TtsPush} {b : GeneratedAudioBuffer} (h : SameAudio b s.sink)
    (ha : ∀ answer ∈ (pushAll push ps s).1, answer = .ok ()) :
    SameAudio (pushAll GeneratedAudioBuffer.pushGeneratedAudio (ps.map (·.chunk)) b).2 (pushAll push ps s).2.sink ∧
      (pushAll push ps s).2.sink.emitted = s.sink.emitted ++ ps.map (·.chunk.pcm) := by
  induction ps generalizing s b
  case nil => exact ⟨h, by simp [pushAll]⟩
  case cons p ps hi =>
    obtain ⟨s', hs, he, ha⟩ := pushAll_cons_ok ha
    obtain ⟨a, hk, -⟩ := push_eq_ok hs
    have hb := (h.push p.chunk).2
    obtain ⟨-, hr⟩ | ⟨hn, -⟩ := s.sink.push_run p.chunk (.ok ())
    case inl =>
      rw [hr] at hb
      obtain ⟨hb, hm⟩ := hi (s := s') (hk ▸ hb) ha
      rw [he]
      exact ⟨hb, by simp [hm, hk, GeneratedAudioStreamingSink.pushed]⟩
    case inr => exact absurd a hn

end PcmDelivery

namespace PcmDeliveryRun

variable (r : PcmDeliveryRun)

theorem pushed_sound : r.pushed.2.Sound :=
  pushAll_preserves PcmDelivery.push_sound
    ⟨⟨fun _ _ h => absurd h List.not_mem_nil, fun h => absurd h (by simp [PcmDelivery.new])⟩, fun h => absurd rfl h⟩

-- A delivery that is acknowledged as sent has finished what it pushed.
theorem conclude_cases (segment : Nat) {s : PcmDelivery} (h : s.Sound) :
    let o := r.conclude segment s
    Settled o.calls ∧ (o.sent = true ↔ ∃ segment, o.result = .ok segment) ∧
      (o.sent = true → r.synthesis = .ok () ∧ s.publication.published = true ∧
        o.calls = s.publication.calls ++ [.finish (.ok ())]) := by
  have ha : Settled (s.publication.calls ++ if s.publication.published then [abort] else []) := by
    cases hp : s.publication.published
    case false => simpa using .unopened (h.publication.waiting hp)
    case true  => exact .aborted (h.publication.opened hp)
  rw [conclude]
  cases r.synthesis
  case error => simpa using ha
  case ok =>
    by_cases hb : s.sink.bytes = 0
    case pos => simpa [hb] using ha
    case neg =>
      obtain ⟨hp, hf, he⟩ := h.received hb
      have ho := h.publication.opened hp
      cases r.finish
      case error => simpa [hb, hp] using .failed ho
      case ok =>
        cases r.acknowledged
        case error => simpa [hb, hp] using .finished ho
        case ok    => simpa [hb, hp, hf, he] using .finished ho

theorem deliver_of_sent (h : r.streamAndDeliverRealtimeAvatarPcm.sent = true) :
    ∃ segment, r.streamAndDeliverRealtimeAvatarPcm = r.conclude segment r.pushed.2 := by
  rw [streamAndDeliverRealtimeAvatarPcm] at h ⊢
  cases hv : r.validHandle <;> rw [hv] at h
  case false => cases h
  case true =>
    cases hp : r.permit <;> rw [hp] at h
    case error => cases h
    case ok =>
      cases hg : r.segment <;> rw [hg] at h
      case error      => cases h
      case ok segment => exact ⟨segment, rfl⟩

-- Whatever the synthesis, the provider and the permits do: the stream of the provider is left closed, and
-- an error is never reported for a segment that was acknowledged as sent.
theorem deliver_settled (r : PcmDeliveryRun) :
    let o := streamAndDeliverRealtimeAvatarPcm r
    Settled o.calls ∧ (o.sent = true ↔ ∃ segment, o.result = .ok segment) ∧
      (o.sent = true → r.synthesis = .ok () ∧ ∃ calls, Opened calls ∧ o.calls = calls ++ [.finish (.ok ())]) := by
  have hn : Settled [] := .unopened (by simp)
  rw [streamAndDeliverRealtimeAvatarPcm]
  cases r.validHandle
  case false => simpa using hn
  case true =>
    cases r.permit
    case error => simpa using hn
    case ok =>
      cases r.segment
      case error => simpa using hn
      case ok segment =>
        have h := r.pushed_sound
        obtain ⟨hs, hr, hf⟩ := r.conclude_cases segment h
        refine ⟨hs, hr, fun hx => ?_⟩
        obtain ⟨ht, hp, hc⟩ := hf hx
        exact ⟨ht, _, h.publication.opened hp, hc⟩

-- A delivery that is acknowledged as sent gave the provider all of the audio, as it would have been
-- buffered, if no push of the synthesis failed.
theorem deliver_complete (r : PcmDeliveryRun) (hs : r.streamAndDeliverRealtimeAvatarPcm.sent = true)
    (ha : ∀ answer ∈ r.pushed.1, answer = .ok ()) :
    ∃ rate channels, (∀ p ∈ r.pushes, p.chunk.sampleRateHz = rate ∧ p.chunk.channels = channels) ∧
      r.streamAndDeliverRealtimeAvatarPcm.calls = openPcmStream rate channels (.ok ()) ::
        (r.pushes.map fun p => pushPcm p.chunk.pcm (.ok ())) ++ [.finish (.ok ())] ∧
      (r.pushes.map (·.chunk.pcm)).flatten = (buffered (r.pushes.map (·.chunk))).2.pcm := by
  obtain ⟨segment, hd⟩ := r.deliver_of_sent hs
  rw [hd] at hs ⊢
  obtain ⟨-, hp, hc⟩ := (r.conclude_cases segment r.pushed_sound).2.2 hs
  obtain ⟨hb, hm⟩ := PcmDelivery.pushAll_audio (s := .new) (b := .new) ⟨rfl, rfl, rfl, rfl⟩ ha
  have hb : r.pushed.2.sink.emitted.flatten = (buffered (r.pushes.map (·.chunk))).2.pcm := hb.emitted
  rw [hc, ← hb, pushed, hm]
  rw [pushed] at ha hp
  cases hr : r.pushes <;> rw [hr] at ha hp
  case nil => cases hp
  case cons p ps =>
    obtain ⟨s, hx, he, ha⟩ := pushAll_cons_ok ha
    obtain ⟨-, hk, hy⟩ := PcmDelivery.push_eq_ok hx
    obtain ⟨ht, hcalls⟩ := PcmPublication.send_eq_ok hy
    obtain ⟨hf, hcalls'⟩ := PcmDelivery.pushAll_ok ht.published (by rw [hk]; rfl) (by rw [hk]; rfl) ha
    refine ⟨_, _, List.forall_mem_cons.mpr ⟨⟨rfl, rfl⟩, hf⟩, ?_, rfl⟩
    rw [he, hcalls', hcalls]
    rfl

-- Two chunks, and nobody objects
def exampleRun : PcmDeliveryRun where
  validHandle  := true
  permit       := .ok ()
  segment      := .ok 0
  pushes       := [⟨⟨[1, 0], 16000, 1, .s16Le⟩, false, .ok (), .ok ()⟩,
    ⟨⟨[2, 0, 3, 0], 16000, 1, .s16Le⟩, false, .ok (), .ok ()⟩]
  synthesis    := .ok ()
  finish       := .ok ()
  acknowledged := .ok ()

theorem deliver_complete_chunks :
    ∃ rate channels, (∀ p ∈ exampleRun.pushes, p.chunk.sampleRateHz = rate ∧ p.chunk.channels = channels) ∧
      exampleRun.streamAndDeliverRealtimeAvatarPcm.calls = openPcmStream rate channels (.ok ()) ::
        (exampleRun.pushes.map fun p => pushPcm p.chunk.pcm (.ok ())) ++ [.finish (.ok ())] ∧
      (exampleRun.pushes.map (·.chunk.pcm)).flatten = (buffered (exampleRun.pushes.map (·.chunk))).2.pcm := by
  have ha : exampleRun.pushed.1 = [.ok (), .ok ()] := rfl
  exact exampleRun.deliver_complete rfl (by simp [ha])

end PcmDeliveryRun
