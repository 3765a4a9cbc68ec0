import PersonaRuntime.OwnerLab.VoiceStt
import PersonaRuntime.Runtime.Theorems.Turns

-- The parts stand in the text one after the other.
inductive Consecutive {α : Type} : List (List α) → List α → Prop
  | nil {text} : Consecutive [] text
  | cons {part parts rest} (gap : List α) : Consecutive parts rest → Consecutive (part :: parts) (gap ++ part ++ rest)

namespace Consecutive

variable {α : Type} {part text : List α} {parts : List (List α)}

theorem length_le (h : Consecutive parts text) : parts.flatten.length ≤ text.length := by
  induction h
  case nil         => simp
  case cons gap _ hi => simp only [List.flatten_cons, List.length_append] at hi ⊢; omega

theorem single (part : List α) : Consecutive [part] part := by
  have h : Consecutive [part] ([] ++ part ++ []) := .cons [] .nil
  simpa using h

end Consecutive

namespace VoiceSttInput

-- The stream gives these events and then ends cleanly.
inductive Delivers {σ : Type} (stream : SttAudioStream σ) : σ → List SttStreamEvent → σ → Prop
  | finished {s s'} : (stream.dispatchNext s = some (.ok none, s')) → Delivers stream s [] s'
  | event {s s₁ s' e events} : (stream.dispatchNext s = some (.ok (some e), s₁)) →
    Delivers stream s₁ events s' → Delivers stream s (e :: events) s'

variable {σ : Type} {stream : SttAudioStream σ} {s s' s₁ : σ} {e : SttStreamEvent}
variable {events : List SttStreamEvent} {kept : Option Transcript} {turn : ActiveTurn × MediaTimeline}

def finalOf : SttStreamEvent → Option Transcript
  | .final transcript => if isBlank transcript.text then none else some transcript
  | .interim _        => none

def finals (events : List SttStreamEvent) : List Transcript :=
  events.filterMap finalOf

theorem keepFinal_eq : keepFinal kept e = (finalOf e).or kept := by
  cases e
  case interim => rfl
  case final t => cases h : isBlank t.text <;> simp [keepFinal, finalOf, h]

theorem foldl_keepFinal : events.foldl keepFinal kept = (finals events).getLast?.or kept := by
  induction events generalizing kept
  case nil => simp [finals]
  case cons e events hi =>
    rw [List.foldl_cons, hi, keepFinal_eq]
    cases h : finalOf e
    case none => simp [finals, h]
    case some t =>
      simp only [finals, List.filterMap_cons, h, List.getLast?_cons]
      cases (events.filterMap finalOf).getLast? <;> rfl

-- The loop keeps the last of the finals.
theorem finalTranscript_of_delivers (h : Delivers stream s events s') {fuel : Nat} (hf : events.length < fuel) :
    finalTranscript stream fuel s kept = some (.ok (events.foldl keepFinal kept), s') := by
  induction h generalizing fuel kept <;> obtain ⟨fuel, rfl⟩ := Nat.exists_eq_add_one_of_ne_zero (Nat.ne_zero_of_lt hf)
  case finished h => simp [finalTranscript, h]
  case event h _ hi =>
    rw [finalTranscript, h]
    exact hi (by simpa using hf)

-- Nobody has cut the turn short.
structure Uninterrupted (turn : ActiveTurn) : Prop where
  state     : turn.state.state ≠ .cancelled
  cancelled : turn.state.state = .processing ∨ turn.state.state = .outputting → turn.cancelled = false

theorem terminalizeFailedTurn_iff {α : Type} (w : turn.1.state.WellFormed) :
    ∃ error turn', (terminalizeFailedTurn .speechNotRecognized : TurnCallM α).run turn = .error error turn' ∧
      (error = .speechNotRecognized ↔ Uninterrupted turn.1) := by
  have hf : ActiveTurn.fail.run turn = _ := ActiveTurn.fail_run (m := turn.2) w
  have hu : Uninterrupted turn.1 ↔ turn.1.state.state ≠ .cancelled ∧
      (turn.1.state.state = .processing ∨ turn.1.state.state = .outputting → turn.1.cancelled = false) :=
    ⟨fun h => ⟨h.state, h.cancelled⟩, fun h => ⟨h.left, h.right⟩⟩
  cases hs : turn.1.state.state
  case processing | outputting =>
    cases hc : turn.1.cancelled
    all_goals simp [terminalizeFailedTurn, hf, hu, hs, hc, TurnState.interruptible]
  all_goals simp [terminalizeFailedTurn, hu, hs]

-- What `finish` should make of the events of a stream that ends cleanly.
structure Recognizes (events : List SttStreamEvent)
    (r : EStateM.Result LabError (ActiveTurn × MediaTimeline) (Transcript × UsageEvidence)) : Prop where
  spoken       : finals events ≠ [] → ∃ transcript usage turn, r = .ok (transcript, usage) turn ∧
    Consecutive ((finals events).map (·.text.toList)) transcript.text.toList
  unrecognized : (∃ turn, r = .error .speechNotRecognized turn) ↔ finals events = []

theorem finalOf_text {t : Transcript} (h : finalOf e = some t) : t.text.toList ≠ [] := by
  cases e <;> simp only [finalOf, Option.ite_none_left_eq_some, reduceCtorEq, Option.some.injEq] at h
  case final =>
    obtain ⟨hb, rfl⟩ := h
    intro hn
    simp [isBlank, hn] at hb

theorem mem_finals_text {t : Transcript} (h : t ∈ finals events) : t.text.toList ≠ [] := by
  have ⟨_, _, h⟩ := List.mem_filterMap.mp h
  exact finalOf_text h

-- The last of the finals only has room for itself.
theorem consecutive_getLast_iff {transcripts : List Transcript} {last : Transcript}
    (hn : ∀ t ∈ transcripts ++ [last], t.text.toList ≠ []) :
    Consecutive ((transcripts ++ [last]).map (·.text.toList)) last.text.toList ↔ transcripts = [] := by
  constructor
  case mpr =>
    rintro rfl
    exact .single _
  case mp =>
    intro h
    have hl := h.length_le
    cases transcripts
    case nil => rfl
    case cons t ts =>
      have ht := List.length_pos_iff.mpr (hn t (by simp))
      simp at hl
      omega

theorem recognizes_ok_iff {transcripts : List Transcript} {last : Transcript} {usage : UsageEvidence}
    (h : finals events = transcripts ++ [last]) :
    Recognizes events (.ok (last, usage) turn) ↔ transcripts = [] := by
  have hn : ∀ t ∈ transcripts ++ [last], t.text.toList ≠ [] := fun t ht => mem_finals_text (h ▸ ht)
  rw [← consecutive_getLast_iff hn]
  constructor
  case mp =>
    intro r
    have ⟨_, _, _, hr, hc⟩ := r.spoken (by simp [h])
    simp only [EStateM.Result.ok.injEq, Prod.mk.injEq] at hr
    obtain ⟨⟨rfl, -⟩, -⟩ := hr
    exact h ▸ hc
  case mpr => exact fun hc => ⟨fun _ => ⟨last, usage, turn, rfl, h ▸ hc⟩, by simp [h]⟩

theorem recognizes_error_iff {error : LabError} (h : finals events = []) :
    Recognizes events (.error error turn) ↔ error = .speechNotRecognized := by
  constructor
  case mp =>
    intro r
    have ⟨_, hr⟩ := r.unrecognized.mpr h
    simp only [EStateM.Result.error.injEq] at hr
    exact hr.left
  case mpr =>
    rintro rfl
    exact ⟨fun hn => absurd h hn, by simp [h]⟩

theorem finish_of_delivers {fuel : Nat} (hi : stream.dispatchFinish s = (.ok (), s₁))
    (h : Delivers stream s₁ events s') (hf : events.length < fuel) :
    finish stream fuel turn (.streaming s) =
      some ((finals events).getLast?.elim ((terminalizeFailedTurn .speechNotRecognized).run turn)
        fun transcript => .ok (transcript, stream.usage s') turn) := by
  have hk : finalTranscript stream fuel s₁ none = _ := finalTranscript_of_delivers h hf
  rw [foldl_keepFinal, Option.or_none] at hk
  simp only [finish, hi, hk, Option.map_some]
  cases (finals events).getLast? <;> rfl

theorem finish_recognizes {fuel : Nat} (w : turn.1.state.WellFormed)
    (hi : stream.dispatchFinish s = (.ok (), s₁)) (h : Delivers stream s₁ events s') (hf : events.length < fuel) :
    ∃ r, finish stream fuel turn (.streaming s) = some r ∧
      (Recognizes events r ↔
        (finals events).length ≤ 1 ∧ (finals events = [] → Uninterrupted turn.1)) := by
  have hr : finish stream fuel turn (.streaming s) = _ := finish_of_delivers hi h hf
  obtain hn | ⟨transcripts, last, hn⟩ := (finals events).eq_nil_or_concat
  case inl =>
    obtain ⟨error, turn', ht, hu⟩ := terminalizeFailedTurn_iff (α := Transcript × UsageEvidence) w
    refine ⟨_, by simpa [hn, ht] using hr, ?_⟩
    simp [recognizes_error_iff hn, hu, hn]
  case inr =>
    rw [List.concat_eq_append] at hn
    refine ⟨_, by simpa [hn] using hr, ?_⟩
    simp [recognizes_ok_iff hn, hn]

end VoiceSttInput

namespace DeepgramLiveStream

open VoiceSttInput (Delivers Recognizes Uninterrupted finals)

variable {live : DeepgramLiveStream} {localeHint : Option String} {read : SocketRead} {reads : List SocketRead}

-- What a read gives to the events of the stream.
def eventOf (localeHint : Option String) (read : SocketRead) : Option SttStreamEvent :=
  match read.result with
  | .ok (.text text) => (parseEvent text localeHint).toOption.join
  | _                => none

-- A read that neither fails nor ends the stream, in time for the call to go on.
def continues (localeHint : Option String) (read : SocketRead) : Bool :=
  !read.cancelled && (!read.elapsed || (eventOf localeHint read).isSome) &&
    match read.result with
    | .ok (.text text)       => (parseEvent text localeHint).isOk
    | .ok (.ping pong)       => pong.isOk
    | .ok .close             => false
    | .ok _ | .error .idle   => true
    | .error _               => false

def events (localeHint : Option String) (reads : List SocketRead) : List SttStreamEvent :=
  reads.filterMap (eventOf localeHint)

structure Ready (live : DeepgramLiveStream) : Prop where
  cancelled : live.cancelled = false
  completed : live.completed = false

theorem Ready.ensureActive (h : live.Ready) : live.ensureActive = .ok () := by
  simp [DeepgramLiveStream.ensureActive, h.cancelled, h.completed]

def after (live : DeepgramLiveStream) (reads : List SocketRead) : DeepgramLiveStream :=
  { live with cancelled := false, reads }

theorem nextEvent_continues (h : live.Ready) (hr : live.reads = read :: reads)
    (hc : continues live.request.localeHint read = true) :
    live.nextEvent = (eventOf live.request.localeHint read).elim (live.after reads).nextEvent
      fun event => some (.ok (some event), live.after reads) := by
  have ha : (live.after reads).ensureActive = .ok () := Ready.ensureActive ⟨rfl, h.completed⟩
  obtain ⟨result, cancelled, elapsed⟩ := read
  simp only [continues, Bool.and_eq_true, Bool.not_eq_true', Bool.or_eq_true] at hc
  obtain ⟨⟨rfl, he⟩, hc⟩ := hc
  rw [nextEvent, hr, nextEventFrom, h.ensureActive]
  simp only [Bool.false_eq_true, if_false]
  -- Whatever gives no event leaves the call where it was.
  have hg (hn : eventOf live.request.localeHint ⟨result, false, elapsed⟩ = none) :
      (live.after reads).nextEventFrom elapsed reads = (live.after reads).nextEvent := by
    obtain rfl : elapsed = false := by simpa [hn] using he
    rfl
  cases result
  case error e =>
    cases e <;> simp only [Bool.false_eq_true] at hc
    case idle => exact hg rfl
  case ok message =>
    cases message <;> try simp only [Bool.false_eq_true] at hc
    case ping p =>
      cases p
      case error => cases hc
      case ok    => exact hg rfl
    case text text =>
      cases hp : parseEvent text live.request.localeHint <;> rw [hp] at hc
      case error => cases hc
      case ok event =>
        have hl : parseEvent text (live.after reads).request.localeHint = .ok event := hp
        cases event
        case none =>
          have hn : eventOf live.request.localeHint ⟨.ok (.text text), false, elapsed⟩ = none := by
            simp [eventOf, hp, Except.toOption]
          rw [hn, Option.elim_none, ← hg hn]
          simp only [after] at ha hl ⊢
          simp [ha, hl]
        case some event =>
          have hn : eventOf live.request.localeHint ⟨.ok (.text text), false, elapsed⟩ = some event := by
            simp [eventOf, hp, Except.toOption]
          rw [hn, Option.elim_some]
          simp only [after] at ha hl ⊢
          simp [ha, hl]
    all_goals exact hg rfl

theorem Ready.after (h : live.Ready) (reads : List SocketRead) : (live.after reads).Ready :=
  ⟨rfl, h.completed⟩

theorem dispatchNext_of_nextEvent {live' : DeepgramLiveStream} {event : Option SttStreamEvent} (h : live.Ready)
    (hn : live.nextEvent = some (.ok event, live')) (hc : live'.cancelled = false) :
    audioStream.dispatchNext live = some (.ok event, live') := by
  simp only [SttAudioStream.dispatchNext, SttAudioStream.answered, audioStream, h.cancelled, hn, hc, Option.map_some,
    Bool.false_eq_true, if_false]
  rfl

theorem dispatchNext_congr {live' : DeepgramLiveStream} (h : live.Ready) (h' : live'.Ready)
    (hn : live.nextEvent = live'.nextEvent) : audioStream.dispatchNext live = audioStream.dispatchNext live' := by
  simp only [SttAudioStream.dispatchNext, SttAudioStream.answered, audioStream, h.cancelled, h'.cancelled, hn,
    Bool.false_eq_true, if_false]

theorem Delivers.congr {s₁ s₂ s' : DeepgramLiveStream} {es : List SttStreamEvent}
    (h : Delivers audioStream s₁ es s') (hn : audioStream.dispatchNext s₂ = audioStream.dispatchNext s₁) :
    Delivers audioStream s₂ es s' := by
  cases h
  case finished h => exact .finished (hn.trans h)
  case event h hd => exact .event (hn.trans h) hd

-- Everything up to the end of the stream is delivered.
theorem delivers (h : live.Ready) {close : SocketRead} {rest : List SocketRead}
    (hr : live.reads = reads ++ close :: rest) (hc : ∀ r ∈ reads, continues live.request.localeHint r = true)
    (hl : close.result = .ok .close) (hn : close.cancelled = false) :
    ∃ live', Delivers audioStream live (events live.request.localeHint reads) live' := by
  induction reads generalizing live
  case nil =>
    refine ⟨{ live with cancelled := false, completed := true, reads := rest }, .finished ?_⟩
    refine dispatchNext_of_nextEvent h ?_ rfl
    have ha : (live.after rest).ensureActive = .ok () := (h.after rest).ensureActive
    simp only [after] at ha
    simp [nextEvent, nextEventFrom, hr, h.ensureActive, hl, hn, ha]
  case cons read reads hi =>
    have hs := nextEvent_continues h hr (hc read (by simp))
    have ⟨live', hd⟩ := hi (h.after (reads ++ close :: rest)) rfl fun r hm => hc r (by simp [hm])
    cases he : eventOf live.request.localeHint read <;> rw [he] at hs
    case none =>
      refine ⟨live', ?_⟩
      rw [events, List.filterMap_cons_none he]
      exact Delivers.congr hd (dispatchNext_congr h (h.after _) hs)
    case some event =>
      refine ⟨live', ?_⟩
      rw [events, List.filterMap_cons_some he]
      exact .event (dispatchNext_of_nextEvent h hs rfl) hd

theorem dispatchFinish_eq_ok {live' : DeepgramLiveStream}
    (h : audioStream.dispatchFinish live = (.ok (), live')) :
    live'.Ready ∧ live'.reads = live.reads ∧ live'.request = live.request := by
  simp only [SttAudioStream.dispatchFinish, SttAudioStream.answered, audioStream, finishInput] at h
  cases hc : live.cancelled <;> simp only [hc, Bool.false_eq_true, if_true, if_false, Prod.mk.injEq, reduceCtorEq,
    false_and] at h
  cases hd : live.completed
  case true => simp [DeepgramLiveStream.ensureActive, hc, hd, Except.mapError] at h
  case false =>
    have ha : live.ensureActive = .ok () := Ready.ensureActive ⟨hc, hd⟩
    cases hf : live.inputFinished
    case true =>
      simp only [ha, hf, hc, if_true, Bool.false_eq_true, if_false] at h
      obtain ⟨-, rfl⟩ := h
      exact ⟨⟨hc, hd⟩, rfl, rfl⟩
    case false =>
      cases hs : live.closeStream <;> simp only [ha, hf, hs, hc, Bool.false_eq_true, if_false, Except.mapError,
        reduceCtorEq, false_and] at h
      case ok =>
        obtain ⟨-, rfl⟩ := h
        exact ⟨⟨rfl, hd⟩, rfl, rfl⟩

end DeepgramLiveStream

namespace VoiceSttInput

open DeepgramLiveStream (audioStream continues)

theorem finish_live_recognizes (w : turn.1.state.WellFormed) (fuel : Nat) (live : DeepgramLiveStream)
    (reads : List SocketRead) {rest : List SocketRead} {live₁ : DeepgramLiveStream} {close : SocketRead}
    (hi : audioStream.dispatchFinish live = (.ok (), live₁)) (hr : live.reads = reads ++ close :: rest)
    (hc : ∀ r ∈ reads, continues live.request.localeHint r = true) (hl : close.result = .ok .close)
    (hn : close.cancelled = false) (hf : reads.length < fuel) :
    ∃ r, finish audioStream fuel turn (.streaming live) = some r ∧
      (Recognizes (DeepgramLiveStream.events live.request.localeHint reads) r ↔
        (finals (DeepgramLiveStream.events live.request.localeHint reads)).length ≤ 1 ∧
        (finals (DeepgramLiveStream.events live.request.localeHint reads) = [] → Uninterrupted turn.1)) := by
  have ⟨h, hr₁, hq⟩ := DeepgramLiveStream.dispatchFinish_eq_ok hi
  have ⟨live', hd⟩ := DeepgramLiveStream.delivers h (hr₁.trans hr) (hq ▸ hc) hl hn
  refine finish_recognizes w hi (hq ▸ hd) (Nat.lt_of_le_of_lt ?_ hf)
  exact List.length_filterMap_le _ _

-- A single final is what `finish` can take, from any stream and from the one of the provider.
theorem finish_recognizes_iff {turn : ActiveTurn × MediaTimeline} (w : turn.1.state.WellFormed) (fuel : Nat) :
    (∀ {σ : Type} {stream : SttAudioStream σ} {s s₁ s' : σ} {events : List SttStreamEvent},
      stream.dispatchFinish s = (.ok (), s₁) → Delivers stream s₁ events s' → events.length < fuel →
      ∃ r, finish stream fuel turn (.streaming s) = some r ∧
        (Recognizes events r ↔
          (finals events).length ≤ 1 ∧ (finals events = [] → Uninterrupted turn.1))) ∧
    (∀ (live : DeepgramLiveStream) (reads : List SocketRead) {live₁ : DeepgramLiveStream}
      {rest : List SocketRead} {close : SocketRead},
      audioStream.dispatchFinish live = (.ok (), live₁) → live.reads = reads ++ close :: rest →
      (∀ r ∈ reads, continues live.request.localeHint r = true) → close.result = .ok .close →
      close.cancelled = false → reads.length < fuel →
      ∃ r, finish audioStream fuel turn (.streaming live) = some r ∧
        (Recognizes (DeepgramLiveStream.events live.request.localeHint reads) r ↔
          (finals (DeepgramLiveStream.events live.request.localeHint reads)).length ≤ 1 ∧
          (finals (DeepgramLiveStream.events live.request.localeHint reads) = [] → Uninterrupted turn.1))) := by
  constructor
  case left  => exact fun hi h hf => finish_recognizes w hi h hf
  case right => exact fun live reads => finish_live_recognizes w fuel live reads

def processingTurn : ActiveTurn × MediaTimeline :=
  let id : CanonicalId := ⟨"canonical", by decide, by decide⟩
  ({
    state                 := .new ⟨id, id, .processing⟩ 1
    snapshot              := ⟨id, id, id, ⟨1, by decide⟩, .digitalTwin, .initial, .initial⟩
    authorizationSnapshot := ⟨.initial⟩
    egressPolicySnapshot  := ⟨.initial⟩
    cancelled             := false
    owners                := 1 }, .new)

def received (message : SocketMessage) : SocketRead :=
  ⟨.ok message, false, false⟩

def results (isFinal : Bool) (transcript : String) : SocketRead :=
  received (.text (some ⟨some "Results", isFinal, some ⟨[⟨transcript⟩]⟩⟩))

def live (reads : List SocketRead) : DeepgramLiveStream where
  request       := ⟨16000, 1, .s16Le, some "ru-RU"⟩
  inputBytes    := 0
  inputFinished := false
  completed     := false
  closeStream   := .ok ()
  cancelled     := false
  reads         := reads ++ [received .close]

theorem processingTurn_wellFormed : processingTurn.1.state.WellFormed :=
  ⟨by simp [processingTurn, TurnMutableState.new], rfl, rfl⟩

theorem processingTurn_uninterrupted : Uninterrupted processingTurn.1 :=
  ⟨by decide, by simp [processingTurn]⟩

-- An interim result and the final one.
theorem finish_recognizes_one_final : ∃ r,
    finish audioStream 3 processingTurn (.streaming (live [results false "Pri", results true "Privet"])) = some r ∧
    Recognizes (DeepgramLiveStream.events (some "ru-RU") [results false "Pri", results true "Privet"]) r := by
  have ⟨r, hr, hi⟩ := (finish_recognizes_iff processingTurn_wellFormed 3).right
    (live [results false "Pri", results true "Privet"]) [results false "Pri", results true "Privet"]
    rfl rfl (by decide +kernel) rfl rfl (by decide)
  exact ⟨r, hr, hi.mpr ⟨by decide +kernel, fun _ => processingTurn_uninterrupted⟩⟩

-- The provider cuts the utterance in two.
theorem not_recognizes_two_finals : ∃ r,
    finish audioStream 3 processingTurn (.streaming (live [results true "Privet", results true "Vasya"])) = some r ∧
    ¬Recognizes (DeepgramLiveStream.events (some "ru-RU") [results true "Privet", results true "Vasya"]) r := by
  have ⟨r, hr, hi⟩ := finish_live_recognizes processingTurn_wellFormed 3
    (live [results true "Privet", results true "Vasya"]) [results true "Privet", results true "Vasya"]
    rfl rfl (by decide +kernel) rfl rfl (by decide)
  refine ⟨r, hr, fun h => ?_⟩
  have hl := (hi.mp h).left
  revert hl
  decide +kernel

end VoiceSttInput
