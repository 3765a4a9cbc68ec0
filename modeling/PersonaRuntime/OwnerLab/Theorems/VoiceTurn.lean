import PersonaRuntime.OwnerLab.Theorems.VoicePhrase
import PersonaRuntime.OwnerLab.VoiceTurn
import PersonaRuntime.Runtime.Theorems.Turns

namespace VoiceObservation

variable {t o : List VoiceObservation} {phrases : List (List Char)}

def generatedPhrases (t : List VoiceObservation) : List (List Char) :=
  t.filterMap fun | generated phrase => some phrase | _ => none

-- The phrases that the delivery has begun with.
def spokenPhrases (t : List VoiceObservation) : List (List Char) :=
  t.filterMap fun | speaking phrase => some phrase | _ => none

def deliveredPhrases (t : List VoiceObservation) : List (List Char) :=
  t.filterMap fun | delivered phrase => some phrase | _ => none

def emittedSequences (t : List VoiceObservation) : List Nat :=
  t.filterMap fun | emitted sequence => some sequence | _ => none

theorem generatedPhrases_append : generatedPhrases (t ++ o) = generatedPhrases t ++ generatedPhrases o :=
  List.filterMap_append

theorem spokenPhrases_append : spokenPhrases (t ++ o) = spokenPhrases t ++ spokenPhrases o :=
  List.filterMap_append

theorem deliveredPhrases_append : deliveredPhrases (t ++ o) = deliveredPhrases t ++ deliveredPhrases o :=
  List.filterMap_append

theorem emittedSequences_append : emittedSequences (t ++ o) = emittedSequences t ++ emittedSequences o :=
  List.filterMap_append

-- What the producer generates shows nothing else.
theorem generatedPhrases_map : generatedPhrases (phrases.map generated) = phrases := by
  simp [generatedPhrases]

theorem spokenPhrases_map : spokenPhrases (phrases.map generated) = [] := by
  simp [spokenPhrases]

theorem deliveredPhrases_map : deliveredPhrases (phrases.map generated) = [] := by
  simp [deliveredPhrases]

theorem emittedSequences_map : emittedSequences (phrases.map generated) = [] := by
  simp [emittedSequences]

end VoiceObservation

namespace ActiveTurn

variable {s : ActiveSession} {t : ActiveTurn} {now : Option Nat} {timeline : MediaTimeline}

-- The authority and the policy of a turn still hold and its flag is unset.
def admitted (s : ActiveSession) (now : Option Nat) (turn : ActiveTurn) : Bool :=
  !turn.cancelled && (validateSnapshots s turn now).isOk

theorem guarded_error {g : ActiveTurn → Except Rt0ReasonCode Unit} {c : TurnCall} {e : Rt0ReasonCode}
    (h : g t = .error e) : (guarded g c).run (t, timeline) = .error e (t, timeline) := by
  simp [guarded, h]

theorem guarded_transition_run {g : ActiveTurn → Except Rt0ReasonCode Unit} {next : TurnAdvance} (h : g t = .ok ()) :
    (guarded g (.transition next)).run (t, timeline) =
      if Turn.valid t.state.state next.state then .ok () ({ t with state := t.state.enter next.state }, timeline)
      else .error .invalidStateTransition (t, timeline) := by
  have hr := @TurnMutableState.transition_run t.state next.state
  cases hv : Turn.valid t.state.state next.state <;> simp only [hv, if_true] at hr
  all_goals simp [guarded, h, EStateM.zoom_run, TurnCall.call, TurnCall.onTurn, hr]

end ActiveTurn

def TurnAdvance.method : TurnAdvance → TurnMethod
  | authorized => .authorize
  | processing => .beginProcessing
  | outputting => .beginOutput
  | completed  => .complete

namespace ActiveTurn

variable {s : ActiveSession} {t : ActiveTurn} {now : Option Nat} {timeline : MediaTimeline}

-- The four methods that take a turn on ask for the same.
theorem advance_guard (s : ActiveSession) (t : ActiveTurn) (now : Option Nat) (a : TurnAdvance) :
    ∃ g : ActiveTurn → Except Rt0ReasonCode Unit, a.method.call s now = guarded g (.transition a) ∧
    (t.admitted s now = true → g t = .ok ()) := by
  have hn : t.cancelled = false → t.requireNotCancelled = .ok () := fun h => by simp [requireNotCancelled, h]
  have hv {x : Except Rt0ReasonCode Unit} (h : x.isOk = true) : x = .ok () := by
    cases x
    case error => simp [Except.isOk, Except.toBool] at h
    case ok    => rfl
  cases a
  case authorized =>
    refine ⟨fun turn => do validateSnapshots s turn now; turn.requireNotCancelled, rfl, fun h => ?_⟩
    simp only [admitted, Bool.and_eq_true, Bool.not_eq_true'] at h
    simp only [hv h.right, hn h.left]
    rfl
  all_goals
    refine ⟨(requireExecutionactiveEgress s · now), rfl, fun h => ?_⟩
    simp only [admitted, Bool.and_eq_true, Bool.not_eq_true'] at h
    simp only [requireExecutionactiveEgress, hv h.right, hn h.left]
    rfl

theorem advance_run (s : ActiveSession) (t : ActiveTurn) (now : Option Nat) (timeline : MediaTimeline)
    (a : TurnAdvance) :
    (∃ e, (a.method.call s now).run (t, timeline) = .error e (t, timeline) ∧
      (t.admitted s now = true → Turn.valid t.state.state a.state = false)) ∨
    Turn.valid t.state.state a.state = true ∧
      (a.method.call s now).run (t, timeline) = .ok () ({ t with state := t.state.enter a.state }, timeline) := by
  obtain ⟨g, hc, hg⟩ := advance_guard s t now a
  rw [hc]
  cases hx : g t
  case error e =>
    refine .inl ⟨e, guarded_error hx, fun h => ?_⟩
    rw [hg h] at hx
    cases hx
  case ok =>
    rw [guarded_transition_run hx]
    cases hv : Turn.valid t.state.state a.state
    case false => exact .inl ⟨_, rfl, fun _ => rfl⟩
    case true  => exact .inr ⟨rfl, rfl⟩

theorem beginOutputSegment_run (s : ActiveSession) (t : ActiveTurn) (now : Option Nat) (timeline : MediaTimeline) :
    (∃ e, ((TurnMethod.beginOutputSegment.call s now).run (t, timeline)) = .error e (t, timeline)) ∨
    ((TurnMethod.beginOutputSegment.call s now).run (t, timeline)) = .ok () ({ t with state := { t.state with
      nextSegmentId := t.state.nextSegmentId + 1
      outputSegments := t.state.outputSegments ++ [⟨t.state.nextSegmentId, ⟨.generated⟩⟩] } }, timeline) := by
  simp only [TurnMethod.call, beginOutputSegment]
  cases hg : requireExecutionactiveEgress s t now
  case error e => exact .inl ⟨e, guarded_error hg⟩
  case ok =>
    have hr := TurnMutableState.beginOutputSegment_run (s := t.state)
    have he {e : Rt0ReasonCode} (hr : TurnMutableState.beginOutputSegment.run t.state = .error e t.state) :
        (guarded (requireExecutionactiveEgress s · now) .beginOutputSegment).run (t, timeline) =
          .error e (t, timeline) := by
      simp [guarded, hg, EStateM.zoom_run, TurnCall.call, TurnCall.onTurn, hr]
    split_ifs at hr
    · exact .inl ⟨_, he hr⟩
    · exact .inr <| by simp [guarded, hg, EStateM.zoom_run, TurnCall.call, TurnCall.onTurn, hr]
    · exact .inl ⟨_, he hr⟩

-- A receipt leaves the turn where it is and its segments numbered as they are.
theorem reconcile_follows (s : ActiveSession) (t : ActiveTurn) (now : Option Nat) (timeline : MediaTimeline)
    (r : Receipt) (id : Nat) :
    (((TurnMethod.reconcile r id).call s now).run (t, timeline)).state.1.state.state = t.state.state ∧
    (((TurnMethod.reconcile r id).call s now).run (t, timeline)).state.1.state.nextSegmentId =
      t.state.nextSegmentId := by
  obtain ⟨gs, _, hr⟩ := TurnMutableState.receipt_received r id t.state
  have hs := ActiveTurn.guarded_state (t := t) (m := timeline) (g := fun _ => .ok ()) (c := .reconcile r id)
  simp only [TurnMethod.call, deliver]
  obtain hs | ⟨-, hs⟩ := hs <;> rw [hs]
  · exact ⟨rfl, rfl⟩
  · simp [TurnCall.call, TurnMutableState.onTurn_state, hr, TurnMutableState.state]

end ActiveTurn

-- What others may do to a turn: its segments keep their numbers, and it is at most cancelled.
structure ActiveTurn.Follows (t t' : ActiveTurn) : Prop where
  nextSegmentId : t'.state.nextSegmentId = t.state.nextSegmentId
  state         : t'.state.state = t.state.state ∨ t.state.state.interruptible = true ∧ t'.state.state = .cancelled

namespace ActiveSession

variable {s s' : ActiveSession} {e : SessionEvent} {o : List SessionObservation} {i : TurnAddress}
variable {t : ActiveTurn} {m : TurnMethod} {now : Option Nat} {r : Except Rt0ReasonCode Unit}

theorem foreign_follows (w : ∀ {j t}, s.turns j = some t → t.state.WellFormed) (hf : e.foreign s i = true)
    (h : machine.step s e = some (s', o)) (ht : s.turns i = some t) :
    ∃ t', s'.turns i = some t' ∧ t.Follows t' := by
  obtain ⟨t', ht', -⟩ := (step_advances h).forward ht
  refine ⟨t', ht', ?_⟩
  cases (step_move h).turnMove ht'
  case new hn _ => rw [ht] at hn; cases hn
  case kept hk hs _ =>
    obtain rfl := Option.some.inj (ht.symm.trans hk)
    exact ⟨by rw [hs], .inl (by rw [hs])⟩
  case method x now he hk hm =>
    obtain rfl := Option.some.inj (ht.symm.trans hk)
    subst he hm
    cases x <;> simp only [SessionEvent.foreign, ne_eq, not_true_eq_false, decide_false, Bool.false_eq_true] at hf
    case interrupt =>
      simp only [TurnMethod.call, ActiveTurn.interrupt_run (w ht)]
      cases hi : t.state.state.interruptible
      case false => exact ⟨rfl, .inl rfl⟩
      case true  => exact ⟨rfl, .inr ⟨hi, rfl⟩⟩
    case reconcile receipt id =>
      obtain ⟨hs, hn⟩ := ActiveTurn.reconcile_follows s t now s.mediaTimeline receipt id
      exact ⟨hn, .inl hs⟩

-- A method of the turn changes nothing but the turn and the timeline.
theorem callMethod_eq (ht : s.turns i = some t) : s.callMethod i m now =
    some (((m.call s now).run (t, s.mediaTimeline)).toExcept,
      { s.setTurn i ((m.call s now).run (t, s.mediaTimeline)).state.1 with
        mediaTimeline := ((m.call s now).run (t, s.mediaTimeline)).state.2 }) := by
  simp [callMethod, ht]

theorem callMethod_wellFormed (w : ∀ {j t}, s.turns j = some t → t.state.WellFormed)
    (h : s.callMethod i m now = some (r, s')) {j : TurnAddress} {t' : ActiveTurn} (ht' : s'.turns j = some t') :
    t'.state.WellFormed := by
  simp only [callMethod, Option.bind_eq_bind, Option.pure_def, Option.bind_eq_some_iff, Option.some.injEq,
    Prod.mk.injEq] at h
  obtain ⟨t, ht, rfl, rfl⟩ := h
  obtain ⟨-, rfl⟩ | ht' := setTurn_turns ht'
  · exact (ActiveTurn.method_change (w ht) m s now).preserves_wellFormed (w ht)
  · exact w ht'

theorem callMethod_turn (ht : s.turns i = some t) (h : s.callMethod i m now = some (r, s')) :
    s'.turns i = some ((m.call s now).run (t, s.mediaTimeline)).state.1 ∧
      r = ((m.call s now).run (t, s.mediaTimeline)).toExcept := by
  rw [callMethod_eq ht] at h
  obtain ⟨rfl, rfl⟩ := by simpa using h
  exact ⟨by simp [setTurn], rfl⟩

end ActiveSession

namespace ActiveSession

variable {s s' : ActiveSession} {i : TurnAddress} {t : ActiveTurn} {now : Option Nat} {r : Except Rt0ReasonCode Unit}

theorem callMethod_advance (a : TurnAdvance) (ht : s.turns i = some t)
    (h : s.callMethod i a.method now = some (r, s')) :
    ∃ t', s'.turns i = some t' ∧ t'.state.nextSegmentId = t.state.nextSegmentId ∧
      ((∃ e, r = .error e ∧ t'.state.state = t.state.state ∧
          (t.admitted s now = true → Turn.valid t.state.state a.state = false)) ∨
        r = .ok () ∧ Turn.valid t.state.state a.state = true ∧ t'.state.state = a.state) := by
  obtain ⟨ht', hr⟩ := callMethod_turn ht h
  refine ⟨_, ht', ?_⟩
  obtain ⟨e, hx, ha⟩ | ⟨hv, hx⟩ := ActiveTurn.advance_run s t now s.mediaTimeline a
  all_goals rw [hx] at hr ⊢
  · exact ⟨rfl, .inl ⟨e, hr, rfl, ha⟩⟩
  · exact ⟨rfl, .inr ⟨hr, hv, rfl⟩⟩

theorem callMethod_segment (ht : s.turns i = some t) (h : s.callMethod i .beginOutputSegment now = some (r, s')) :
    ∃ t', s'.turns i = some t' ∧ t'.state.state = t.state.state ∧
      ((∃ e, r = .error e ∧ t'.state.nextSegmentId = t.state.nextSegmentId) ∨
        r = .ok () ∧ t'.state.nextSegmentId = t.state.nextSegmentId + 1) := by
  obtain ⟨ht', hr⟩ := callMethod_turn ht h
  refine ⟨_, ht', ?_⟩
  obtain ⟨e, hx⟩ | hx := ActiveTurn.beginOutputSegment_run s t now s.mediaTimeline
  all_goals rw [hx] at hr ⊢
  · exact ⟨rfl, .inl ⟨e, hr, rfl⟩⟩
  · exact ⟨rfl, .inr ⟨hr, rfl⟩⟩

theorem callMethod_reconcile (receipt : Receipt) (id : Nat) (ht : s.turns i = some t)
    (h : s.callMethod i (.reconcile receipt id) now = some (r, s')) :
    ∃ t', s'.turns i = some t' ∧ t'.state.state = t.state.state ∧
      t'.state.nextSegmentId = t.state.nextSegmentId := by
  obtain ⟨ht', -⟩ := callMethod_turn ht h
  obtain ⟨hs, hn⟩ := ActiveTurn.reconcile_follows s t now s.mediaTimeline receipt id
  exact ⟨_, ht', hs, hn⟩

-- A turn that can still be failed is failed unless its flag is set.
theorem callMethod_fail (w : t.state.WellFormed) (ht : s.turns i = some t)
    (h : s.callMethod i .fail now = some (r, s')) :
    ∃ t', s'.turns i = some t' ∧ t'.state.nextSegmentId = t.state.nextSegmentId ∧
      ((∃ e, r = .error e ∧ t'.state.state = t.state.state ∧
          (t.cancelled = false → t.state.state.interruptible = false)) ∨
        r = .ok () ∧ t'.state.state = .failed) := by
  obtain ⟨ht', hr⟩ := callMethod_turn ht h
  refine ⟨_, ht', ?_⟩
  simp only [TurnMethod.call, ActiveTurn.fail_run w] at hr ⊢
  cases hc : t.cancelled <;> cases hi : t.state.state.interruptible
  all_goals simp only [hc, hi, if_true, if_false, Bool.false_eq_true] at hr ⊢
  case false.true => exact ⟨rfl, .inr ⟨hr, rfl⟩⟩
  all_goals exact ⟨rfl, .inl ⟨_, hr, rfl, by simp⟩⟩

end ActiveSession

def LlmEvent.phrases (queue : List LlmEvent) : List (List Char) :=
  queue.filterMap fun | phrase p => some p | _ => none

namespace VoicePoint

def before : VoicePoint → Bool
  | authorize | beginProcessing | transcribe | instruct => true
  | _                                                   => false

-- The call goes through the events of its channel.
def looping : VoicePoint → Bool
  | receive | beginOutput _ | prepare _ | beginOutputSegment _ | speak .. | acknowledgeOutputSent .. => true
  | registerDelivery _ | emitSegment _                                                               => true
  | _                                                                                                => false

-- The call is on its way to return an error.
def exits : VoicePoint → Bool
  | terminalize _ | fail _ | refused _ | leave (.error _) => true
  | _                                                     => false

-- There is no producer.
def joined : VoicePoint → Bool
  | authorize | beginProcessing | transcribe | instruct | complete _ | returned _ => true
  | _                                                                             => false

def answer : VoicePoint → Option (List Char)
  | leave (.ok reply) | complete reply | returned (.ok reply) => some reply
  | _                                                         => none

def inHand : VoicePoint → List (List Char)
  | beginOutput phrase => [phrase]
  | _                  => []

-- The phrase whose delivery has begun and is not over.
def unfinished : VoicePoint → List (List Char)
  | prepare phrase | beginOutputSegment phrase | speak phrase _ | acknowledgeOutputSent phrase _ => [phrase]
  | _                                                                                            => []

def unemitted : VoicePoint → Nat
  | registerDelivery _ | emitSegment _ => 1
  | _                                  => 0

def segment : VoicePoint → Option Nat
  | speak _ id | acknowledgeOutputSent _ id | registerDelivery id | emitSegment id => some id
  | _                                                                              => none

def unregistered : VoicePoint → Option Nat
  | speak _ id | acknowledgeOutputSent _ id | registerDelivery id => some id
  | _                                                             => none

-- The output has begun.
def outputs : VoicePoint → Bool
  | receive | beginOutput _ => false
  | p                       => p.looping || p.answer.isSome

-- Where the turn can be at this point of its call. It may be frozen at all of them but the last.
def allows (outputStarted : Bool) (state : TurnState) : VoicePoint → Bool
  | authorize                            => state = .received || state.frozen
  | beginProcessing                      => state = .authorized || state.frozen
  | transcribe | instruct                => state = .processing || state.frozen
  | receive                              => state = (if outputStarted then .outputting else .processing) || state.frozen
  | beginOutput _                        => state = .processing || state.frozen
  | terminalize _ | fail _               => state = .processing || state = .outputting || state.frozen
  | refused _ | leave (.error _)         => state.frozen
  | returned (.error _)                  => state.frozen
  | returned (.ok _)                     => state = .completed
  | _                                    => state = .outputting || state.frozen

end VoicePoint

-- A step of one of the two threads.
def VoiceTurnEvent.own : VoiceTurnEvent → Bool
  | produce _ | consume .. => true
  | _                      => false

namespace VoiceTurn

open VoiceObservation

-- What is in the channel and the outbox, by where the producer is. Its last event is the only one that is
-- not a phrase.
def Feeding (said : List (List Char)) (queue : List LlmEvent) : LlmProduction → Prop
  | .opening                 => said = [] ∧ queue = []
  | .reading reply _ phrases => (∃ slices, phrases.Fed reply slices said) ∧ ∃ ps, queue = List.map .phrase ps
  | .over                    => ∃ ps last, queue = List.map .phrase ps ++ [last] ∧ (∀ p, last ≠ .phrase p) ∧
    ∀ {reply firstMeaningful}, last = .finished reply firstMeaningful →
      said.flatten.filter (!isWhiteSpace ·) = reply.filter (!isWhiteSpace ·)

structure Looping (t : List VoiceObservation) (point : VoicePoint) (queue : List LlmEvent)
    (production : LlmProduction) (sequences : List Nat) : Prop where
  order   : generatedPhrases t = spokenPhrases t ++ point.inHand ++ LlmEvent.phrases queue
  spoken  : spokenPhrases t = deliveredPhrases t ++ point.unfinished
  emitted : emittedSequences t = sequences
  count   : (deliveredPhrases t).length = sequences.length + point.unemitted
  feeding : Feeding (generatedPhrases t) queue production

-- What has been shown once there is a reply.
structure Answered (reply : List Char) (t : List VoiceObservation) (sequences : List Nat) : Prop where
  whole   : (deliveredPhrases t).flatten.filter (!isWhiteSpace ·) = reply.filter (!isWhiteSpace ·)
  emitted : emittedSequences t = sequences
  count   : (deliveredPhrases t).length = sequences.length

structure Flow (t : List VoiceObservation) (s : VoiceTurn) : Prop where
  order    : spokenPhrases t <+: generatedPhrases t
  single   : ∃ last, spokenPhrases t = deliveredPhrases t ++ last ∧ last.length ≤ 1
  before   : s.point.before = true →
    t = [] ∧ s.channel = [] ∧ s.outputSequences = [] ∧ s.outputStarted = false
  looping  : s.point.looping = true →
    Looping t s.point (s.channel ++ s.producer.outbox) s.producer.production s.outputSequences
  answered : ∀ {reply}, s.point.answer = some reply → Answered reply t s.outputSequences
  joined   : s.point.joined = true → s.producer.ended = true

-- The numbers that the call has given out lie below those that it has still to register or to emit.
structure Numbered (evidenceTurnSequence : Nat) (registry : LabVoicePlaybackRegistry) (sequences : List Nat)
    (point : VoicePoint) (next : Nat) : Prop where
  sorted     : sequences.Pairwise (· < ·)
  below      : ∀ k ∈ sequences, k < point.segment.getD next
  segment    : ∀ {k}, point.segment = some k → k < next
  registered : ∀ {entry}, registry[evidenceTurnSequence]? = some entry → entry.turn = evidenceTurnSequence ∧
    ∀ k ∈ entry.deliveries, k < point.unregistered.getD next

structure Consistent (i : TurnAddress) (evidenceTurnSequence : Nat) (t : List VoiceObservation) (s : VoiceTurn)
    (turn : ActiveTurn) : Prop where
  turns    : ∀ {j turn}, s.session.turns j = some turn → turn.state.WellFormed
  here     : s.session.turns i = some turn
  allows   : s.point.allows s.outputStarted turn.state.state = true
  numbered : Numbered evidenceTurnSequence s.registry s.outputSequences s.point turn.state.nextSegmentId
  started  : s.point.outputs = true ∨ s.outputSequences ≠ [] → s.outputStarted = true
  flow     : Flow t s

variable {engine : VoiceEngine} {i : TurnAddress} {seq : Nat} {t o : List VoiceObservation} {s s' : VoiceTurn}
variable {turn turn' : ActiveTurn} {said : List (List Char)} {queue : List LlmEvent} {production : LlmProduction}
variable {event : LlmEvent} {point point' : VoicePoint} {registry : LabVoicePlaybackRegistry}
variable {sequences : List Nat} {next : Nat}

theorem phrases_append {queue' : List LlmEvent} :
    LlmEvent.phrases (queue ++ queue') = LlmEvent.phrases queue ++ LlmEvent.phrases queue' :=
  List.filterMap_append

theorem phrases_map {ps : List (List Char)} : LlmEvent.phrases (ps.map .phrase) = ps := by
  simp [LlmEvent.phrases]

-- A phrase that is taken leaves the rest as it was.
theorem Feeding.tail {p : List Char} (h : Feeding said (.phrase p :: queue) production) :
    Feeding said queue production := by
  cases production
  case opening => simp [Feeding] at h
  case reading reply meaningful phrases =>
    obtain ⟨hf, ps, hq⟩ := h
    cases ps
    case nil => simp at hq
    case cons q ps => exact ⟨hf, ps, (List.cons.inj hq).right⟩
  case «over» =>
    obtain ⟨ps, last, hq, hl, hr⟩ := h
    cases ps
    case nil => exact absurd (List.cons.inj hq).left.symm (hl p)
    case cons q ps => exact ⟨ps, last, (List.cons.inj hq).right, hl, hr⟩

-- The end of the reply comes after all its phrases.
theorem Feeding.finished {reply : List Char} {meaningful : Bool}
    (h : Feeding said (.finished reply meaningful :: queue) production) :
    queue = [] ∧ said.flatten.filter (!isWhiteSpace ·) = reply.filter (!isWhiteSpace ·) := by
  cases production
  case opening => simp [Feeding] at h
  case reading =>
    obtain ⟨-, ps, hq⟩ := h
    cases ps <;> simp at hq
  case «over» =>
    obtain ⟨ps, last, hq, -, hr⟩ := h
    cases ps
    case nil =>
      obtain ⟨rfl, rfl⟩ := List.cons.inj hq
      exact ⟨rfl, hr rfl⟩
    case cons => simp at hq

theorem Numbered.weaken (n : Numbered seq registry sequences point next) (hs : point'.segment = none)
    (hu : point'.unregistered = none) : Numbered seq registry sequences point' next where
  sorted := n.sorted
  below k hk := by
    have hb := n.below k hk
    have hn := n.segment (k := point.segment.getD next)
    cases hp : point.segment <;> simp only [hp, hs, Option.getD_none, Option.getD_some, forall_const] at hb hn ⊢
    · exact hb
    · exact hb.trans hn
  segment h := by rw [hs] at h; cases h
  registered {entry} he := by
    obtain ⟨ht, hk⟩ := n.registered he
    refine ⟨ht, fun k hm => ?_⟩
    have hb := hk k hm
    rw [hu, Option.getD_none]
    cases hp : point.unregistered <;> simp only [hp, Option.getD_none, Option.getD_some] at hb
    · exact hb
    · refine hb.trans (n.segment ?_)
      cases point <;> simp_all [VoicePoint.unregistered, VoicePoint.segment]

theorem Numbered.same (n : Numbered seq registry sequences point next) (hs : point'.segment = point.segment)
    (hu : point'.unregistered = point.unregistered) : Numbered seq registry sequences point' next :=
  ⟨n.sorted, hs ▸ n.below, hs ▸ n.segment, hu ▸ n.registered⟩

-- The phrases are spoken in the order in which they have been generated, one at a time.
theorem Looping.ordered (l : Looping t point queue production sequences) : spokenPhrases t <+: generatedPhrases t := by
  rw [l.order, List.append_assoc]
  exact List.prefix_append _ _

theorem Looping.single (l : Looping t point queue production sequences) :
    ∃ last, spokenPhrases t = deliveredPhrases t ++ last ∧ last.length ≤ 1 :=
  ⟨_, l.spoken, by cases point <;> simp [VoicePoint.unfinished]⟩

-- A step that stays in the loop.
theorem Flow.of_looping (hl : s.point.looping = true)
    (l : Looping t s.point (s.channel ++ s.producer.outbox) s.producer.production s.outputSequences) : Flow t s where
  order     := l.ordered
  single    := l.single
  before h  := by cases hp : s.point <;> simp [hp, VoicePoint.before, VoicePoint.looping] at h hl
  looping _ := l
  answered h := by cases hp : s.point <;> simp [hp, VoicePoint.answer, VoicePoint.looping] at h hl
  joined h  := by cases hp : s.point <;> simp [hp, VoicePoint.joined, VoicePoint.looping] at h hl

-- A step that ends the call with an error, or goes on with that.
theorem Flow.exit (f : Flow t s) (hp : s'.point.exits = true) (hs : spokenPhrases o = [])
    (hd : deliveredPhrases o = []) : Flow (t ++ o) s' where
  order := by
    rw [spokenPhrases_append, hs, List.append_nil, generatedPhrases_append]
    exact f.order.trans (List.prefix_append _ _)
  single := by
    rw [spokenPhrases_append, hs, List.append_nil, deliveredPhrases_append, hd, List.append_nil]
    exact f.single
  before h   := by cases hx : s'.point <;> simp [hx, VoicePoint.before, VoicePoint.exits] at h hp
  looping h  := by cases hx : s'.point <;> simp [hx, VoicePoint.looping, VoicePoint.exits] at h hp
  answered h := by
    cases hx : s'.point
    all_goals simp only [hx, VoicePoint.answer, VoicePoint.exits, reduceCtorEq, Bool.false_eq_true] at h hp
    case leave r => cases r <;> simp at h hp
  joined h   := by cases hx : s'.point <;> simp [hx, VoicePoint.joined, VoicePoint.exits] at h hp

theorem exits_eq (hp : point.exits = true) :
    point.segment = none ∧ point.unregistered = none ∧ point.outputs = false := by
  cases point <;> simp only [VoicePoint.exits, Bool.false_eq_true] at hp <;>
    simp only [VoicePoint.segment, VoicePoint.unregistered, VoicePoint.outputs, VoicePoint.looping, VoicePoint.answer,
      Option.isSome_none, Bool.or_false, and_self]
  case leave r => cases r <;> simp at hp ⊢

theorem Consistent.exit (c : Consistent i seq t s turn) (point : VoicePoint) (hp : point.exits = true)
    {session : ActiveSession} (ht : session.turns i = some turn')
    (w : ∀ {j turn}, session.turns j = some turn → turn.state.WellFormed)
    (hn : turn'.state.nextSegmentId = turn.state.nextSegmentId)
    (ha : point.allows s.outputStarted turn'.state.state = true) (channel : List LlmEvent)
    (hs : spokenPhrases o = []) (hd : deliveredPhrases o = []) :
    Consistent i seq (t ++ o) { s with session, channel, point } turn' where
  turns    := w
  here     := ht
  allows   := ha
  numbered := hn ▸ c.numbered.weaken (exits_eq hp).left (exits_eq hp).right.left
  started h := c.started <| h.imp (fun h => by rw [(exits_eq hp).right.right] at h; cases h) id
  flow     := c.flow.exit hp hs hd

-- Nothing has been shown, and nothing was taken from the channel.
theorem Consistent.quits (c : Consistent i seq t s turn) (point : VoicePoint) (hp : point.exits = true)
    {session : ActiveSession} (ht : session.turns i = some turn')
    (w : ∀ {j turn}, session.turns j = some turn → turn.state.WellFormed)
    (hn : turn'.state.nextSegmentId = turn.state.nextSegmentId)
    (ha : point.allows s.outputStarted turn'.state.state = true) :
    Consistent i seq (t ++ []) { s with session, point } turn' :=
  c.exit point hp ht w hn ha s.channel rfl rfl

theorem Consistent.stops (c : Consistent i seq t s turn) (point : VoicePoint) (hp : point.exits = true)
    (ha : point.allows s.outputStarted turn.state.state = true) :
    Consistent i seq (t ++ []) { s with point } turn :=
  c.quits point hp c.here c.turns rfl ha

-- Whatever returns its error without terminalizing the turn is not refused, unless the turn has ended, and
-- whoever fails the turn finds its flag unset.
def settles (engine : VoiceEngine) (i : TurnAddress) (s : VoiceTurn) : VoiceTurnEvent → Bool
  | .consume now _ => (s.turn i).any fun turn => turn.state.state.frozen || match s.point with
    | .authorize | .beginProcessing | .beginOutput _ | .complete _ => turn.admitted s.session now
    | .transcribe => engine.stt
    | .instruct   => engine.sessionAudience.isSome && engine.llm && engine.avatar
    | .fail _     => !turn.cancelled
    | _           => true
  | _ => true

-- What an advance can do to a turn that has come to where the advance begins.
theorem advance_cases (c : Consistent i seq t s turn) {a : TurnAdvance} {now : Option Nat} {follow : VoiceTurn}
    {shown : List VoiceObservation} (h : s.advance i a.method now follow shown = some (s', o))
    (hg : turn.state.state.frozen = true ∨ turn.admitted s.session now = true)
    (hv : Turn.valid turn.state.state a.state = true ∨ turn.state.state.frozen = true) :
    ∃ session turn', session.turns i = some turn' ∧
      (∀ {j turn}, session.turns j = some turn → turn.state.WellFormed) ∧
      turn'.state.nextSegmentId = turn.state.nextSegmentId ∧
      ((∃ e, s' = { s.fails e with session } ∧ o = [] ∧ turn'.state.state.frozen = true) ∨
        s' = { follow with session } ∧ o = shown ∧ turn'.state.state = a.state) := by
  simp only [advance, Option.bind_eq_bind, Option.pure_def, Option.bind_eq_some_iff, Prod.exists] at h
  obtain ⟨r, session, hm, h⟩ := h
  obtain ⟨turn', ht, hn, hr⟩ := ActiveSession.callMethod_advance a c.here hm
  refine ⟨session, turn', ht, ActiveSession.callMethod_wellFormed c.turns hm, hn, ?_⟩
  obtain ⟨e, rfl, hs, ha⟩ | ⟨rfl, -, hs⟩ := hr <;> simp only [Option.some.injEq, Prod.mk.injEq] at h
  · refine .inl ⟨_, h.left.symm, h.right.symm, ?_⟩
    rw [hs]
    obtain hg | hg := hg
    · exact hg
    · simpa [ha hg] using hv
  · exact .inr ⟨h.left.symm, h.right.symm, hs⟩

theorem Flow.of_before (hb : s.point.before = true) (hc : s.channel = []) (hs : s.outputSequences = [])
    (ho : s.outputStarted = false) (he : s.producer.ended = true) : Flow [] s where
  order      := List.prefix_rfl
  single     := ⟨[], rfl, Nat.zero_le _⟩
  before _   := ⟨rfl, hc, hs, ho⟩
  looping h  := by cases hp : s.point <;> simp [hp, VoicePoint.before, VoicePoint.looping] at h hb
  answered h := by cases hp : s.point <;> simp [hp, VoicePoint.before, VoicePoint.answer] at h hb
  joined _   := he

-- A step from one of the points before the loop to the next.
theorem Consistent.before (c : Consistent i seq t s turn) (point : VoicePoint) (hb : s.point.before = true)
    {session : ActiveSession} (hb' : point.before = true) (ht : session.turns i = some turn')
    (w : ∀ {j turn}, session.turns j = some turn → turn.state.WellFormed)
    (hn : turn'.state.nextSegmentId = turn.state.nextSegmentId)
    (ha : point.allows s.outputStarted turn'.state.state = true) :
    Consistent i seq (t ++ []) { s with session, point } turn' := by
  obtain ⟨rfl, hc, hs, ho⟩ := c.flow.before hb
  have hj : s.point.joined = true := by cases hp : s.point <;> simp [hp, VoicePoint.before, VoicePoint.joined] at hb ⊢
  have hp : point.segment = none ∧ point.unregistered = none ∧ point.outputs = false := by
    cases point <;> simp [VoicePoint.before, VoicePoint.segment, VoicePoint.unregistered, VoicePoint.outputs,
      VoicePoint.looping, VoicePoint.answer] at hb' ⊢
  exact {
    turns    := w
    here     := ht
    allows   := ha
    numbered := hn ▸ c.numbered.weaken hp.left hp.right.left
    started  := by
      rintro (h | h)
      · rw [hp.right.right] at h
        cases h
      · exact absurd hs h
    flow     := .of_before hb' hc hs ho (c.flow.joined hj) }

-- A step of the loop.
theorem Consistent.loop (c : Consistent i seq t s turn) (hl : s'.point.looping = true)
    (w : ∀ {j turn}, s'.session.turns j = some turn → turn.state.WellFormed) (ht : s'.session.turns i = some turn')
    (ha : s'.point.allows s'.outputStarted turn'.state.state = true)
    (hn : Numbered seq s'.registry s'.outputSequences s'.point turn'.state.nextSegmentId)
    (hs : s'.outputStarted = true ∨ s'.outputStarted = s.outputStarted ∧ s'.point.outputs = false ∧
      s'.outputSequences = s.outputSequences)
    (l : Looping (t ++ o) s'.point (s'.channel ++ s'.producer.outbox) s'.producer.production s'.outputSequences) :
    Consistent i seq (t ++ o) s' turn' where
  turns    := w
  here     := ht
  allows   := ha
  numbered := hn
  started h := by
    obtain hs | ⟨hs, hp, hq⟩ := hs
    · exact hs
    · rw [hp, hq] at h
      rw [hs]
      exact c.started (h.imp (fun h => by cases h) id)
  flow     := .of_looping hl l

theorem Consistent.orTerminalize (c : Consistent i seq t s turn) {result : Except LabError Unit} {follow : VoiceTurn}
    (ha : ∀ e, (VoicePoint.terminalize e).allows s.outputStarted turn.state.state = true)
    (hf : Consistent i seq (t ++ o) follow turn) (hs : spokenPhrases o = []) (hd : deliveredPhrases o = []) :
    Consistent i seq (t ++ o) (s.orTerminalize result follow) turn := by
  cases result
  case ok      => exact hf
  case error e => exact c.exit (.terminalize e) rfl c.here c.turns rfl (ha e) s.channel hs hd

-- What the loop has shown, where the call has come to `point`.
theorem Consistent.atLoop (c : Consistent i seq t s turn) (hp : s.point = point) (hl : point.looping = true) :
    Looping t point (s.channel ++ s.producer.outbox) s.producer.production s.outputSequences :=
  hp ▸ c.flow.looping (hp ▸ hl)

theorem receive_consistent (c : Consistent i seq t s turn) (hp : s.point = .receive)
    (h : s.receive = some (s', o)) : ∃ turn', Consistent i seq (t ++ o) s' turn' := by
  have l := c.atLoop hp rfl
  have ha := c.allows
  rw [hp] at ha
  have hx (e : LabError) : (VoicePoint.terminalize e).allows s.outputStarted turn.state.state = true := by
    cases hs : s.outputStarted <;> simp_all [VoicePoint.allows]
    all_goals tauto
  have exits (e : LabError) (channel : List LlmEvent) :
      ∃ turn', Consistent i seq (t ++ []) { s with channel, point := .terminalize e } turn' :=
    ⟨turn, c.exit (.terminalize e) rfl c.here c.turns rfl (hx e) channel rfl rfl⟩
  unfold receive at h
  split at h
  case h_1 hc =>
    split_ifs at h
    obtain ⟨rfl, rfl⟩ := by simpa using h
    exact exits .invalidInput s.channel
  case h_2 phrase channel hc =>
    have hf : Feeding (generatedPhrases t) (channel ++ s.producer.outbox) s.producer.production := by
      have hf := l.feeding
      rw [hc] at hf
      exact hf.tail
    have ho := l.order
    rw [hc] at ho
    split at h <;> obtain ⟨rfl, rfl⟩ := by simpa using h
    case isTrue hs =>
      refine ⟨turn, c.loop rfl c.turns c.here ?_ ?_ (.inl hs) ?_⟩
      · simpa [VoicePoint.allows, hs] using ha
      · exact c.numbered.same (by rw [hp]; rfl) (by rw [hp]; rfl)
      · exact {
          order   := by simpa [generatedPhrases, spokenPhrases, LlmEvent.phrases, VoicePoint.inHand] using ho
          spoken  := by simpa [spokenPhrases, deliveredPhrases, VoicePoint.unfinished] using l.spoken
          emitted := by simpa [emittedSequences] using l.emitted
          count   := by simpa [deliveredPhrases, VoicePoint.unemitted] using l.count
          feeding := by simpa [generatedPhrases] using hf }
    case isFalse hs =>
      refine ⟨turn, c.loop rfl c.turns c.here ?_ ?_ (.inr ⟨rfl, rfl, rfl⟩) ?_⟩
      · simpa [VoicePoint.allows, hs] using ha
      · exact c.numbered.same (by rw [hp]; rfl) (by rw [hp]; rfl)
      · exact {
          order   := by simpa [LlmEvent.phrases, VoicePoint.inHand] using ho
          spoken  := by simpa [VoicePoint.unfinished] using l.spoken
          emitted := by simpa using l.emitted
          count   := by simpa [VoicePoint.unemitted] using l.count
          feeding := by simpa using hf }
  case h_3 error channel hc =>
    obtain ⟨rfl, rfl⟩ := by simpa using h
    exact exits _ channel
  case h_4 reply meaningful channel hc =>
    split_ifs at h with hm <;> obtain ⟨rfl, rfl⟩ := by simpa using h
    · exact exits .invalidInput channel
    · have hf := l.feeding
      rw [hc, List.cons_append] at hf
      obtain ⟨hq, hw⟩ := hf.finished
      have hg : generatedPhrases t = deliveredPhrases t := by
        rw [l.order, l.spoken, hc, List.cons_append, hq]
        simp [LlmEvent.phrases, VoicePoint.inHand, VoicePoint.unfinished]
      have hn : s.outputSequences ≠ [] := by
        intro hn
        simp [hn] at hm
      have hs := c.started (.inr hn)
      refine ⟨turn, c.turns, c.here, ?_, c.numbered.weaken rfl rfl, fun _ => hs, ?_⟩
      · simpa [VoicePoint.allows, hs] using ha
      · rw [List.append_nil]
        exact {
          order       := l.ordered
          single      := l.single
          before h    := by cases h
          looping h   := by cases h
          answered h  := by
            obtain rfl := Option.some.inj h
            exact ⟨hg ▸ hw, l.emitted, by simpa [VoicePoint.unemitted] using l.count⟩
          joined h    := by cases h }

theorem openSegment_consistent (c : Consistent i seq t s turn) {phrase : List Char} {now : Option Nat}
    (hp : s.point = .beginOutputSegment phrase) (h : s.openSegment i phrase now = some s') :
    ∃ turn', Consistent i seq (t ++ []) s' turn' := by
  have l := c.atLoop hp rfl
  have ha := c.allows
  rw [hp] at ha
  have hs := c.started (.inl (by rw [hp]; rfl))
  simp only [openSegment, VoiceTurn.turn, c.here, Option.bind_eq_bind, Option.bind_some, Option.pure_def,
    Option.bind_eq_some_iff, Option.some.injEq, Prod.exists] at h
  obtain ⟨r, session, hm, rfl⟩ := h
  obtain ⟨turn', ht, hst, hr⟩ := ActiveSession.callMethod_segment c.here hm
  have w {j : TurnAddress} {turn : ActiveTurn} (h : session.turns j = some turn) : turn.state.WellFormed :=
    ActiveSession.callMethod_wellFormed c.turns hm h
  obtain ⟨e, rfl, hn⟩ | ⟨rfl, hn⟩ := hr
  · refine ⟨turn', c.quits (.terminalize (.runtime e)) rfl ht w hn ?_⟩
    rw [hst]
    simp_all [VoicePoint.allows]
    tauto
  · change ∃ turn', Consistent i seq (t ++ [])
      { s with session, point := .speak phrase turn.state.nextSegmentId } turn'
    refine ⟨turn', c.loop rfl w ht ?_ ?_ (.inl hs) ?_⟩
    · rw [hst]
      exact ha
    · have hnum : Numbered seq s.registry s.outputSequences (.beginOutputSegment phrase) turn.state.nextSegmentId :=
        hp ▸ c.numbered
      exact {
        sorted       := hnum.sorted
        below        := hnum.below
        segment h    := by
          obtain rfl := Option.some.inj h
          omega
        registered h := hnum.registered h }
    · exact {
        order   := by simpa [VoicePoint.inHand] using l.order
        spoken  := by simpa [VoicePoint.unfinished] using l.spoken
        emitted := by simpa using l.emitted
        count   := by simpa [VoicePoint.unemitted] using l.count
        feeding := by simpa using l.feeding }

theorem terminalize_consistent (c : Consistent i seq t s turn) {error : LabError} (hp : s.point = .terminalize error)
    (h : s.terminalize i error = some s') : ∃ turn', Consistent i seq (t ++ []) s' turn' := by
  have ha := c.allows
  rw [hp] at ha
  simp only [terminalize, VoiceTurn.turn, c.here, Option.bind_eq_bind, Option.bind_some, Option.pure_def] at h
  split at h <;> obtain rfl := Option.some.inj h
  case h_1 hs | h_2 hs =>
    refine ⟨turn, c.stops (.fail error) rfl ?_⟩
    simp [VoicePoint.allows, hs]
  case h_3 hs =>
    refine ⟨turn, c.stops (.leave (.error _)) rfl ?_⟩
    simp [VoicePoint.allows, hs, TurnState.frozen]
  case h_4 =>
    refine ⟨turn, c.stops (.leave (.error error)) rfl ?_⟩
    cases hs : turn.state.state <;> simp_all [VoicePoint.allows, TurnState.frozen]

theorem fail_consistent (c : Consistent i seq t s turn) {error : LabError} {now : Option Nat}
    (hp : s.point = .fail error) (hg : turn.state.state.frozen = true ∨ turn.cancelled = false)
    (h : s.fail i error now = some s') : ∃ turn', Consistent i seq (t ++ []) s' turn' := by
  have ha := c.allows
  rw [hp] at ha
  simp only [fail, Option.bind_eq_bind, Option.pure_def, Option.bind_eq_some_iff, Prod.exists] at h
  obtain ⟨r, session, hm, h⟩ := h
  obtain ⟨turn', ht, hn, hr⟩ := ActiveSession.callMethod_fail (c.turns c.here) c.here hm
  have w {j : TurnAddress} {turn : ActiveTurn} (h : session.turns j = some turn) : turn.state.WellFormed :=
    ActiveSession.callMethod_wellFormed c.turns hm h
  obtain ⟨e, rfl, hs, hi⟩ | ⟨rfl, hs⟩ := hr <;> obtain rfl := Option.some.inj h
  · refine ⟨turn', c.quits (.refused e) rfl ht w hn ?_⟩
    -- The turn has not been failed because it has ended.
    have hf : turn.state.state.frozen = true := by
      obtain hg | hg := hg
      · exact hg
      · have hi := hi hg
        cases hst : turn.state.state <;> simp_all [VoicePoint.allows, TurnState.interruptible, TurnState.frozen]
    simpa [VoicePoint.allows, hs] using hf
  · refine ⟨turn', c.quits (.leave (.error error)) rfl ht w hn ?_⟩
    simp [VoicePoint.allows, hs, TurnState.frozen]

theorem refused_consistent (c : Consistent i seq t s turn) {reason : Rt0ReasonCode} (hp : s.point = .refused reason)
    (h : s.refused i reason = some s') : ∃ turn', Consistent i seq (t ++ []) s' turn' := by
  have ha := c.allows
  rw [hp] at ha
  simp only [refused, VoiceTurn.turn, c.here, Option.bind_eq_bind, Option.bind_some, Option.pure_def,
    Option.some.injEq] at h
  subst h
  exact ⟨turn, c.stops (.leave (.error _)) rfl ha⟩

theorem leave_consistent (c : Consistent i seq t s turn) {result : Except LabError (List Char)}
    (hp : s.point = .leave result) (h : s.leave result = some s') : ∃ turn', Consistent i seq (t ++ []) s' turn' := by
  have ha := c.allows
  rw [hp] at ha
  have he : s.producer.ended = true := by
    by_contra he
    simp [leave, he] at h
  simp only [leave, he, Bool.not_true, Bool.false_eq_true, if_false] at h
  rw [List.append_nil]
  cases result
  case error error =>
    obtain rfl := Option.some.inj h
    refine ⟨turn, c.turns, c.here, ha, c.numbered.weaken rfl rfl, fun h => c.started (h.imp (fun h => by cases h) id), ?_⟩
    exact {
      order       := c.flow.order
      single      := c.flow.single
      before h    := by cases h
      looping h   := by cases h
      answered h  := by cases h
      joined _    := he }
  case ok reply =>
    have hs := c.started (.inl (by rw [hp]; rfl))
    have f : Answered reply t s.outputSequences := c.flow.answered (by rw [hp]; rfl)
    dsimp only at h
    split_ifs at h <;> obtain rfl := Option.some.inj h
    · refine ⟨turn, ?_⟩
      have hx := c.stops (.terminalize .invalidInput) rfl ?_
      · rw [List.append_nil] at hx
        exact hx
      · simp_all [VoicePoint.allows]
        tauto
    · refine ⟨turn, c.turns, c.here, ha, c.numbered.weaken rfl rfl, fun _ => hs, ?_⟩
      exact {
        order       := c.flow.order
        single      := c.flow.single
        before h    := by cases h
        looping h   := by cases h
        answered h  := by
          obtain rfl := Option.some.inj h
          exact f
        joined _    := he }

theorem quietly_eq_some {x : Option VoiceTurn} (h : quietly x = some (s', o)) : x = some s' ∧ o = [] := by
  obtain ⟨_, hx, h⟩ := Option.map_eq_some_iff.mp h
  obtain ⟨rfl, rfl⟩ := Prod.mk.inj h
  exact ⟨hx, rfl⟩

-- An error that is returned as it is finds the turn ended.
theorem Consistent.fails (c : Consistent i seq t s turn) (e : LabError) (hf : turn.state.state.frozen = true) :
    Consistent i seq (t ++ []) (s.fails e) turn :=
  c.stops (.leave (.error e)) rfl hf

-- A call that takes the turn on before the loop.
theorem Consistent.advances (c : Consistent i seq t s turn) {a : TurnAdvance} {now : Option Nat} (point : VoicePoint)
    (hb : s.point.before = true) (hb' : point.before = true) (ha : point.allows s.outputStarted a.state = true)
    (hg : turn.state.state.frozen = true ∨ turn.admitted s.session now = true)
    (hv : Turn.valid turn.state.state a.state = true ∨ turn.state.state.frozen = true)
    (h : s.advance i a.method now { s with point } [] = some (s', o)) :
    ∃ turn', Consistent i seq (t ++ o) s' turn' := by
  obtain ⟨session, turn', ht, w, hn, ⟨e, rfl, rfl, hf⟩ | ⟨rfl, rfl, hs⟩⟩ := advance_cases c h hg hv
  · exact ⟨turn', c.quits (.leave (.error e)) rfl ht w hn hf⟩
  · exact ⟨turn', c.before point hb hb' ht w hn (hs ▸ ha)⟩

theorem consume_authorize (c : Consistent i seq t s turn) {now : Option Nat} (hp : s.point = .authorize)
    (hg : turn.state.state.frozen = true ∨ turn.admitted s.session now = true)
    (h : s.advance i .authorize now { s with point := .beginProcessing } [] = some (s', o)) :
    ∃ turn', Consistent i seq (t ++ o) s' turn' := by
  have ha := c.allows
  rw [hp] at ha
  apply c.advances (a := .authorized) .beginProcessing (by rw [hp]; rfl) rfl rfl hg ?_ h
  cases hs : turn.state.state <;> simp_all [VoicePoint.allows, TurnState.frozen, Turn.valid, TurnAdvance.state]

theorem consume_beginProcessing (c : Consistent i seq t s turn) {now : Option Nat} (hp : s.point = .beginProcessing)
    (hg : turn.state.state.frozen = true ∨ turn.admitted s.session now = true)
    (h : s.advance i .beginProcessing now { s with point := .transcribe } [] = some (s', o)) :
    ∃ turn', Consistent i seq (t ++ o) s' turn' := by
  have ha := c.allows
  rw [hp] at ha
  apply c.advances (a := .processing) .transcribe (by rw [hp]; rfl) rfl rfl hg ?_ h
  cases hs : turn.state.state <;> simp_all [VoicePoint.allows, TurnState.frozen, Turn.valid, TurnAdvance.state]

theorem consume_beginOutput (c : Consistent i seq t s turn) {now : Option Nat} {phrase : List Char}
    (hp : s.point = .beginOutput phrase) (hg : turn.state.state.frozen = true ∨ turn.admitted s.session now = true)
    (h : s.advance i .beginOutput now { s with outputStarted := true, point := .prepare phrase } [.speaking phrase] =
      some (s', o)) :
    ∃ turn', Consistent i seq (t ++ o) s' turn' := by
  have l := c.atLoop hp rfl
  have ha := c.allows
  rw [hp] at ha
  have hv : Turn.valid turn.state.state .outputting = true ∨ turn.state.state.frozen = true := by
    cases hs : turn.state.state <;> simp_all [VoicePoint.allows, TurnState.frozen, Turn.valid]
  obtain ⟨session, turn', ht, w, hn, ⟨e, rfl, rfl, hf⟩ | ⟨rfl, rfl, hs⟩⟩ := advance_cases c (a := .outputting) h hg hv
  · exact ⟨turn', c.quits (.leave (.error e)) rfl ht w hn hf⟩
  · refine ⟨turn', c.loop rfl w ht ?_ (hn ▸ c.numbered.weaken rfl rfl) (.inl rfl) ?_⟩
    · simp [VoicePoint.allows, hs, TurnAdvance.state]
    · exact {
        order   := by simpa [generatedPhrases, spokenPhrases, VoicePoint.inHand] using l.order
        spoken  := by simpa [spokenPhrases, deliveredPhrases, VoicePoint.unfinished] using l.spoken
        emitted := by simpa [emittedSequences] using l.emitted
        count   := by simpa [deliveredPhrases, VoicePoint.unemitted] using l.count
        feeding := by simpa [generatedPhrases] using l.feeding }

theorem consume_complete (c : Consistent i seq t s turn) {now : Option Nat} {reply : List Char}
    (hp : s.point = .complete reply) (hg : turn.state.state.frozen = true ∨ turn.admitted s.session now = true)
    (h : s.advance i .complete now { s with point := .returned (.ok reply) } [] = some (s', o)) :
    ∃ turn', Consistent i seq (t ++ o) s' turn' := by
  have ha := c.allows
  rw [hp] at ha
  have hv : Turn.valid turn.state.state .completed = true ∨ turn.state.state.frozen = true := by
    cases hs : turn.state.state <;> simp_all [VoicePoint.allows, TurnState.frozen, Turn.valid]
  have hj : s.producer.ended = true := c.flow.joined (by rw [hp]; rfl)
  have f : Answered reply t s.outputSequences := c.flow.answered (by rw [hp]; rfl)
  have hstarted := c.started (.inl (by rw [hp]; rfl))
  obtain ⟨session, turn', ht, w, hn, ⟨e, rfl, rfl, hf⟩ | ⟨rfl, rfl, hs⟩⟩ := advance_cases c (a := .completed) h hg hv
  · exact ⟨turn', c.quits (.leave (.error e)) rfl ht w hn hf⟩
  · refine ⟨turn', w, ht, ?_, hn ▸ c.numbered.weaken rfl rfl, fun _ => hstarted, ?_⟩
    · simp [VoicePoint.allows, hs, TurnAdvance.state]
    · rw [List.append_nil]
      exact {
        order       := c.flow.order
        single      := c.flow.single
        before h    := by cases h
        looping h   := by cases h
        answered h  := by
          obtain rfl := Option.some.inj h
          exact f
        joined _    := hj }

theorem consume_transcribe (c : Consistent i seq t s turn) {answer : Except LabError Unit}
    (hp : s.point = .transcribe) :
    Consistent i seq (t ++ []) (s.orTerminalize answer { s with point := .instruct }) turn := by
  have ha := c.allows
  rw [hp] at ha
  refine c.orTerminalize (fun e => ?_) (c.before .instruct (by rw [hp]; rfl) rfl c.here c.turns rfl ha) rfl rfl
  cases hs : turn.state.state <;> simp_all [VoicePoint.allows, TurnState.frozen]

-- The producer begins with nothing in the channel.
theorem consume_instruct (c : Consistent i seq t s turn) (hp : s.point = .instruct) :
    Consistent i seq (t ++ []) { s with producer := ⟨[], .opening⟩, point := .receive } turn := by
  have ha := c.allows
  rw [hp] at ha
  obtain ⟨rfl, hc, hs, ho⟩ := c.flow.before (by rw [hp]; rfl)
  refine c.loop rfl c.turns c.here ?_ (c.numbered.weaken rfl rfl) (.inr ⟨rfl, rfl, rfl⟩) ?_
  · simpa [VoicePoint.allows, ho] using ha
  · exact {
      order   := by simp [hc, generatedPhrases, spokenPhrases, VoicePoint.inHand, LlmEvent.phrases]
      spoken  := by simp [spokenPhrases, deliveredPhrases, VoicePoint.unfinished]
      emitted := by simp [emittedSequences, hs]
      count   := by simp [deliveredPhrases, hs, VoicePoint.unemitted]
      feeding := by simp [Feeding, generatedPhrases, hc] }

-- A step of the loop at which the call only waits for an answer.
theorem Consistent.wait (c : Consistent i seq t s turn) (hp : s.point = point) (hl : point.looping = true)
    (hl' : point'.looping = true) (hs : s.outputStarted = true)
    (ha : point'.allows s.outputStarted turn.state.state = point.allows s.outputStarted turn.state.state)
    (hi : point'.inHand = point.inHand) (hu : point'.unfinished = point.unfinished)
    (he : point'.unemitted = point.unemitted) (hg : point'.segment = point.segment)
    (hr : point'.unregistered = point.unregistered) : Consistent i seq (t ++ []) { s with point := point' } turn := by
  have l := c.atLoop hp hl
  have hc := c.allows
  rw [hp, ← ha] at hc
  refine c.loop hl' c.turns c.here hc (c.numbered.same (hp ▸ hg) (hp ▸ hr)) (.inl hs) ?_
  rw [List.append_nil]
  exact ⟨hi ▸ l.order, hu ▸ l.spoken, l.emitted, he ▸ l.count, l.feeding⟩

-- The delivery of a phrase is over.
theorem Consistent.sent (c : Consistent i seq t s turn) {phrase : List Char} {segment : Nat} (hp : s.point = point)
    (hl : point.looping = true) (hi : point.inHand = []) (hu : point.unfinished = [phrase]) (he : point.unemitted = 0)
    (hg : point.segment = some segment) (hr : point.unregistered = some segment) (hs : s.outputStarted = true)
    {session : ActiveSession} (ht : session.turns i = some turn')
    (w : ∀ {j turn}, session.turns j = some turn → turn.state.WellFormed)
    (hn : turn'.state.nextSegmentId = turn.state.nextSegmentId)
    (ha : (VoicePoint.registerDelivery segment).allows s.outputStarted turn'.state.state = true) :
    Consistent i seq (t ++ [.delivered phrase]) { s with session, point := .registerDelivery segment } turn' := by
  obtain ⟨order, spoken, emitted, count, feeding⟩ := c.atLoop hp hl
  rw [hi] at order
  rw [hu] at spoken
  rw [he] at count
  refine c.loop rfl w ht ha (hn ▸ c.numbered.same (by rw [hp, hg]; rfl) (by rw [hp, hr]; rfl)) (.inl hs) ?_
  exact {
    order   := by simpa [generatedPhrases, spokenPhrases, VoicePoint.inHand] using order
    spoken  := by simpa [spokenPhrases, deliveredPhrases, VoicePoint.unfinished] using spoken
    emitted := by simpa [emittedSequences] using emitted
    count   := by simpa [deliveredPhrases, VoicePoint.unemitted] using count
    feeding := by simpa [generatedPhrases] using feeding }

theorem consume_prepare (c : Consistent i seq t s turn) {answer : Except LabError Unit} {phrase : List Char}
    (hp : s.point = .prepare phrase) :
    Consistent i seq (t ++ []) (s.orTerminalize answer { s with point := .beginOutputSegment phrase }) turn := by
  have ha := c.allows
  rw [hp] at ha
  have hs := c.started (.inl (by rw [hp]; rfl))
  refine c.orTerminalize (fun e => ?_) (c.wait hp rfl rfl hs rfl rfl rfl rfl rfl rfl) rfl rfl
  cases hst : turn.state.state <;> simp_all [VoicePoint.allows, TurnState.frozen]

theorem consume_speak (c : Consistent i seq t s turn) {now : Option Nat} {answer : Except LabError Unit}
    {phrase : List Char} {segment : Nat} (hp : s.point = .speak phrase segment)
    (h : s.consume engine i seq now answer = some (s', o)) : ∃ turn', Consistent i seq (t ++ o) s' turn' := by
  have ha := c.allows
  rw [hp] at ha
  have hs := c.started (.inl (by rw [hp]; rfl))
  simp only [consume, hp] at h
  split at h
  case h_1 error =>
    obtain ⟨rfl, rfl⟩ := by simpa using h
    refine ⟨turn, c.stops (.terminalize error) rfl ?_⟩
    cases hst : turn.state.state <;> simp_all [VoicePoint.allows, TurnState.frozen]
  case h_2 =>
    split_ifs at h <;> obtain ⟨rfl, rfl⟩ := Prod.mk.inj (Option.some.inj h)
    · exact ⟨turn, c.wait hp rfl rfl hs rfl rfl rfl rfl rfl rfl⟩
    · exact ⟨turn, c.sent hp rfl rfl rfl rfl rfl rfl hs c.here c.turns rfl ha⟩

theorem consume_acknowledge (c : Consistent i seq t s turn) {now : Option Nat} {answer : Except LabError Unit}
    {phrase : List Char} {segment : Nat} (hp : s.point = .acknowledgeOutputSent phrase segment)
    (h : s.consume engine i seq now answer = some (s', o)) : ∃ turn', Consistent i seq (t ++ o) s' turn' := by
  have ha := c.allows
  rw [hp] at ha
  have hs := c.started (.inl (by rw [hp]; rfl))
  simp only [consume, hp, Option.bind_eq_bind, Option.pure_def, Option.bind_eq_some_iff, Prod.exists] at h
  obtain ⟨r, session, hm, h⟩ := h
  obtain ⟨turn', ht, hst, hn⟩ := ActiveSession.callMethod_reconcile .sent segment c.here hm
  have w {j : TurnAddress} {turn : ActiveTurn} (h : session.turns j = some turn) : turn.state.WellFormed :=
    ActiveSession.callMethod_wellFormed c.turns hm h
  cases r <;> obtain ⟨rfl, rfl⟩ := Prod.mk.inj (Option.some.inj h)
  case ok => exact ⟨turn', c.sent hp rfl rfl rfl rfl rfl rfl hs ht w hn (hst ▸ ha)⟩
  case error reason =>
    refine ⟨turn', c.quits (.terminalize (.runtime reason)) rfl ht w hn ?_⟩
    rw [hst]
    cases hst : turn.state.state <;> simp_all [VoicePoint.allows, TurnState.frozen]

-- A segment is not registered twice, and nobody else registers under the number of the turn.
theorem Numbered.register {segment : Nat} (n : Numbered seq registry sequences (.registerDelivery segment) next) :
    ∃ registry', registry.registerDelivery seq seq ⟨seq, segment⟩ = .ok registry' ∧
      Numbered seq registry' sequences (.emitSegment segment) next := by
  have hs : segment < next := n.segment rfl
  have hb : ∀ {registry' : LabVoicePlaybackRegistry} {deliveries : Std.TreeMap Nat OutputDeliveryHandle},
      registry' = registry.insert seq ⟨seq, deliveries.insert segment ⟨seq, segment⟩⟩ →
      (∀ k ∈ deliveries, k < segment) → Numbered seq registry' sequences (.emitSegment segment) next := by
    intro registry' deliveries hr hd
    refine ⟨n.sorted, n.below, n.segment, ?_⟩
    intro entry he
    rw [hr, Std.TreeMap.getElem?_insert_self] at he
    obtain rfl := Option.some.inj he
    refine ⟨rfl, fun k hk => ?_⟩
    simp only [VoicePoint.unregistered, Option.getD_none]
    obtain hk | hk := Std.TreeMap.mem_insert.mp hk
    · rw [Nat.compare_eq_eq] at hk
      exact hk ▸ hs
    · exact (hd k hk).trans hs
  cases hr : registry[seq]?
  case none =>
    have he : registry.registerDelivery seq seq ⟨seq, segment⟩ = .ok (registry.insert seq
        ⟨seq, (∅ : Std.TreeMap Nat OutputDeliveryHandle).insert segment ⟨seq, segment⟩⟩) := by
      simp only [LabVoicePlaybackRegistry.registerDelivery, hr, OutputDeliveryHandle.sequence]
    exact ⟨_, he, hb rfl fun k hk => by simp at hk⟩
  case some entry =>
    obtain ⟨ht, hd⟩ := n.registered hr
    have hn : ¬(entry.turn ≠ seq ∨ segment ∈ entry.deliveries) := by
      rintro (h | h)
      · exact h ht
      · exact absurd (hd segment h) (Nat.lt_irrefl segment)
    have he : registry.registerDelivery seq seq ⟨seq, segment⟩ = .ok (registry.insert seq
        { entry with deliveries := entry.deliveries.insert segment ⟨seq, segment⟩ }) := by
      simp only [LabVoicePlaybackRegistry.registerDelivery, hr, OutputDeliveryHandle.sequence]
      exact if_neg hn
    exact ⟨_, he, hb (by rw [ht]) hd⟩

theorem consume_registerDelivery (c : Consistent i seq t s turn) {now : Option Nat} {answer : Except LabError Unit}
    {segment : Nat} (hp : s.point = .registerDelivery segment)
    (h : s.consume engine i seq now answer = some (s', o)) : ∃ turn', Consistent i seq (t ++ o) s' turn' := by
  have l := c.atLoop hp rfl
  have ha := c.allows
  have hn := c.numbered
  rw [hp] at ha hn
  have hs := c.started (.inl (by rw [hp]; rfl))
  obtain ⟨registry', hr, hn⟩ := hn.register
  simp only [consume, hp, hr] at h
  obtain ⟨rfl, rfl⟩ := Prod.mk.inj (Option.some.inj h)
  refine ⟨turn, c.loop rfl c.turns c.here ha hn (.inl hs) ?_⟩
  rw [List.append_nil]
  exact ⟨l.order, l.spoken, l.emitted, l.count, l.feeding⟩

theorem consume_emitSegment (c : Consistent i seq t s turn) {answer : Except LabError Unit} {sequence : Nat}
    (hp : s.point = .emitSegment sequence) :
    Consistent i seq (t ++ [.emitted sequence]) (s.orTerminalize answer
      { s with outputSequences := s.outputSequences ++ [sequence], point := .receive }) turn := by
  have l := c.atLoop hp rfl
  have ha := c.allows
  have hn := c.numbered
  rw [hp] at ha hn
  have hs := c.started (.inl (by rw [hp]; rfl))
  refine c.orTerminalize (fun e => ?_) (c.loop rfl c.turns c.here ?_ ?_ (.inl hs) ?_) rfl rfl
  · cases hst : turn.state.state <;> simp_all [VoicePoint.allows, TurnState.frozen]
  · simpa [VoicePoint.allows, hs] using ha
  · have hb : ∀ k ∈ s.outputSequences, k < sequence := hn.below
    have hq : sequence < turn.state.nextSegmentId := hn.segment rfl
    exact {
      sorted       := by
        rw [List.pairwise_append]
        refine ⟨hn.sorted, List.pairwise_singleton _ _, fun k hk n hm => ?_⟩
        obtain rfl := List.mem_singleton.mp hm
        exact hb k hk
      below k hk   := by
        simp only [VoicePoint.segment, Option.getD_none]
        obtain hk | hk := List.mem_append.mp hk
        · exact (hb k hk).trans hq
        · exact List.mem_singleton.mp hk ▸ hq
      segment h    := by cases h
      registered h := hn.registered h }
  · exact {
      order   := by simpa [generatedPhrases, spokenPhrases, VoicePoint.inHand] using l.order
      spoken  := by simpa [spokenPhrases, deliveredPhrases, VoicePoint.unfinished] using l.spoken
      emitted := by simpa [emittedSequences] using l.emitted
      count   := by simpa [deliveredPhrases, VoicePoint.unemitted] using l.count
      feeding := by simpa [generatedPhrases] using l.feeding }

theorem consume_consistent (c : Consistent i seq t s turn) {now : Option Nat} {answer : Except LabError Unit}
    (hk : s.settles engine i (.consume now answer) = true) (h : s.consume engine i seq now answer = some (s', o)) :
    ∃ turn', Consistent i seq (t ++ o) s' turn' := by
  have hg := hk
  simp only [settles, VoiceTurn.turn, c.here, Option.any_some, Bool.or_eq_true] at hg
  have hc := h
  cases hp : s.point <;> simp only [consume, hp] at h hg
  case authorize       => exact consume_authorize c hp hg h
  case beginProcessing => exact consume_beginProcessing c hp hg h
  case transcribe =>
    split_ifs at h with he <;> obtain ⟨rfl, rfl⟩ := Prod.mk.inj (Option.some.inj h)
    · exact ⟨turn, c.fails _ (hg.resolve_right (by simpa using he))⟩
    · exact ⟨turn, consume_transcribe c hp⟩
  case instruct =>
    split_ifs at h with he <;> obtain ⟨rfl, rfl⟩ := Prod.mk.inj (Option.some.inj h)
    · refine ⟨turn, c.fails _ (hg.resolve_right ?_)⟩
      cases ha : engine.sessionAudience <;> cases hl : engine.llm <;> cases hv : engine.avatar <;> simp_all
    · exact ⟨turn, consume_instruct c hp⟩
  case receive              => exact receive_consistent c hp h
  case beginOutput phrase   => exact consume_beginOutput c hp hg h
  case prepare phrase =>
    obtain ⟨rfl, rfl⟩ := Prod.mk.inj (Option.some.inj h)
    exact ⟨turn, consume_prepare c hp⟩
  case beginOutputSegment phrase =>
    obtain ⟨hq, rfl⟩ := quietly_eq_some h
    exact openSegment_consistent c hp hq
  case speak phrase segment => exact consume_speak c hp hc
  case acknowledgeOutputSent phrase segment => exact consume_acknowledge c hp hc
  case registerDelivery segment             => exact consume_registerDelivery c hp hc
  case emitSegment sequence =>
    obtain ⟨rfl, rfl⟩ := Prod.mk.inj (Option.some.inj h)
    exact ⟨turn, consume_emitSegment c hp⟩
  case terminalize error =>
    obtain ⟨hq, rfl⟩ := quietly_eq_some h
    exact terminalize_consistent c hp hq
  case fail error =>
    obtain ⟨hq, rfl⟩ := quietly_eq_some h
    exact fail_consistent c hp (hg.imp_right (by simp)) hq
  case refused reason =>
    obtain ⟨hq, rfl⟩ := quietly_eq_some h
    exact refused_consistent c hp hq
  case leave result =>
    obtain ⟨hq, rfl⟩ := quietly_eq_some h
    exact leave_consistent c hp hq
  case complete reply => exact consume_complete c hp hg h
  case returned       => cases h

theorem ended_iff {p : LlmProducer} : p.ended = true ↔ p.outbox = [] ∧ p.production = .over := by
  obtain ⟨outbox, production⟩ := p
  cases outbox <;> cases production <;> simp [LlmProducer.ended]

-- The producer shows nothing but what it generates, and the call does not see where it is.
theorem Consistent.produced (c : Consistent i seq t s turn) {producer : LlmProducer} (channel : List LlmEvent)
    (f : Flow (t ++ o) { s with producer, channel }) : Consistent i seq (t ++ o) { s with producer, channel } turn :=
  ⟨c.turns, c.here, c.allows, c.numbered, c.started, f⟩

theorem Flow.produced (f : Flow t s) (said : List (List Char)) (he : s.producer.ended = false) {producer : LlmProducer}
    {channel : List LlmEvent}
    (l : s.point.looping = true →
      Looping t s.point (s.channel ++ s.producer.outbox) s.producer.production s.outputSequences →
      Looping (t ++ said.map .generated) s.point (channel ++ producer.outbox) producer.production s.outputSequences) :
    Flow (t ++ said.map .generated) { s with producer, channel } where
  order := by
    rw [spokenPhrases_append, spokenPhrases_map, List.append_nil, generatedPhrases_append]
    exact f.order.trans (List.prefix_append _ _)
  single := by
    rw [spokenPhrases_append, spokenPhrases_map, List.append_nil, deliveredPhrases_append, deliveredPhrases_map,
      List.append_nil]
    exact f.single
  before h := by
    have hj : s.point.joined = true := by cases hp : s.point <;> simp [hp, VoicePoint.before, VoicePoint.joined] at h ⊢
    rw [f.joined hj] at he
    cases he
  looping h    := l h (f.looping h)
  answered h   := by
    obtain ⟨hw, hs, hc⟩ := f.answered h
    refine ⟨?_, ?_, ?_⟩
    · rw [deliveredPhrases_append, deliveredPhrases_map, List.append_nil]
      exact hw
    · rw [emittedSequences_append, emittedSequences_map, List.append_nil]
      exact hs
    · rw [deliveredPhrases_append, deliveredPhrases_map, List.append_nil]
      exact hc
  joined h     := by
    rw [f.joined h] at he
    cases he

-- The producer has generated more and put it behind all that is to be delivered.
theorem Looping.generate {events : List LlmEvent} {production' : LlmProduction}
    (l : Looping t point queue production sequences) {said : List (List Char)} (hs : LlmEvent.phrases events = said)
    (hf : Feeding (generatedPhrases t ++ said) (queue ++ events) production') :
    Looping (t ++ said.map .generated) point (queue ++ events) production' sequences where
  order   := by
    rw [generatedPhrases_append, generatedPhrases_map, spokenPhrases_append, spokenPhrases_map, l.order,
      phrases_append, hs]
    simp
  spoken  := by
    rw [spokenPhrases_append, spokenPhrases_map, deliveredPhrases_append, deliveredPhrases_map, List.append_nil,
      List.append_nil]
    exact l.spoken
  emitted := by
    rw [emittedSequences_append, emittedSequences_map, List.append_nil]
    exact l.emitted
  count   := by
    rw [deliveredPhrases_append, deliveredPhrases_map, List.append_nil]
    exact l.count
  feeding := by
    rw [generatedPhrases_append, generatedPhrases_map]
    exact hf

theorem feeding_failed {error : ProviderExecutionError} (h : Feeding said queue production) (hp : production ≠ .over) :
    Feeding (said ++ []) (queue ++ [.failed error]) .over := by
  have hq : ∃ ps, queue = List.map LlmEvent.phrase ps := by
    cases production
    case opening  => exact ⟨[], h.right⟩
    case reading  => exact h.right
    case «over»   => exact absurd rfl hp
  obtain ⟨ps, rfl⟩ := hq
  exact ⟨ps, .failed error, rfl, by simp, by simp⟩

theorem feeding_opened (h : Feeding said queue .opening) :
    Feeding (said ++ []) (queue ++ []) (.reading [] false .default) := by
  obtain ⟨rfl, rfl⟩ := h
  exact ⟨⟨[], rfl, rfl, .nil⟩, [], rfl⟩

theorem feeding_chunk {reply chunk : List Char} {meaningful meaningful' : Bool} {phrases : RealtimePhraseBuffer}
    (h : Feeding said queue (.reading reply meaningful phrases)) :
    Feeding (said ++ (phrases.push chunk).1) (queue ++ (phrases.push chunk).1.map .phrase)
      (.reading (reply ++ chunk) meaningful' (phrases.push chunk).2) := by
  obtain ⟨⟨slices, hf⟩, ps, rfl⟩ := h
  exact ⟨hf.push chunk, ps ++ (phrases.push chunk).1, by rw [List.map_append]⟩

-- What has been said is the reply, apart from white space.
theorem feeding_finished {reply : List Char} {meaningful : Bool} {phrases : RealtimePhraseBuffer}
    (h : Feeding said queue (.reading reply meaningful phrases)) :
    Feeding (said ++ phrases.finish.1)
      (queue ++ (phrases.finish.1.map .phrase ++ [.finished reply meaningful])) .over := by
  obtain ⟨⟨slices, hf⟩, ps, rfl⟩ := h
  refine ⟨ps ++ phrases.finish.1, .finished reply meaningful, by simp, by simp, ?_⟩
  rintro _ _ ⟨⟩
  have hw := RealtimePhraseBuffer.filter_phrases (slices ++ [phrases.pending])
  rw [List.flatMap_append, ← hf.said, List.flatten_append] at hw
  simpa [RealtimePhraseBuffer.finish, hf.whole] using hw

theorem produce_consistent (c : Consistent i seq t s turn)
    {answer : Except ProviderExecutionError (Option (List Char))} (h : s.produce answer = some (s', o)) :
    Consistent i seq (t ++ o) s' turn := by
  have f := c.flow
  unfold produce at h
  split at h
  case h_1 event outbox ho =>
    have he : s.producer.ended = false := by simp [← Bool.not_eq_true, ended_iff, ho]
    split_ifs at h with hr hn <;> obtain ⟨rfl, rfl⟩ := Prod.mk.inj (Option.some.inj h)
    · refine c.produced _ (f.produced [] he fun hl => ?_)
      cases hp : s.point <;> simp [hp, VoicePoint.receiving, VoicePoint.looping] at hr hl
    · refine c.produced _ (f.produced [] he fun _ l => ?_)
      simpa [ho] using l
  case h_2 ho =>
    -- What is put into the outbox is all that it holds.
    have generate (said : List (List Char)) {events : List LlmEvent} {production : LlmProduction}
        (hp : s.producer.production ≠ .over) (hs : LlmEvent.phrases events = said)
        (hf : Feeding (generatedPhrases t) s.channel s.producer.production →
          Feeding (generatedPhrases t ++ said) (s.channel ++ events) production) :
        Consistent i seq (t ++ said.map .generated) { s with producer := ⟨events, production⟩ } turn := by
      have he : s.producer.ended = false := by simp [← Bool.not_eq_true, ended_iff, hp]
      refine c.produced s.channel (f.produced said he fun _ l => ?_)
      rw [ho, List.append_nil] at l
      exact l.generate hs (hf l.feeding)
    split at h
    case h_1 => cases h
    case h_2 error hp =>
      obtain ⟨rfl, rfl⟩ := Prod.mk.inj (Option.some.inj h)
      exact generate [] hp rfl fun hf => feeding_failed hf hp
    case h_3 hp =>
      obtain ⟨rfl, rfl⟩ := Prod.mk.inj (Option.some.inj h)
      exact generate [] (by simp [hp]) rfl fun hf => feeding_opened (hp ▸ hf)
    case h_4 reply meaningful phrases chunk hp =>
      obtain ⟨rfl, rfl⟩ := Prod.mk.inj (Option.some.inj h)
      exact generate _ (by simp [hp]) phrases_map fun hf => feeding_chunk (hp ▸ hf)
    case h_5 reply meaningful phrases hp =>
      obtain ⟨rfl, rfl⟩ := Prod.mk.inj (Option.some.inj h)
      refine generate _ (by simp [hp]) ?_ fun hf => feeding_finished (hp ▸ hf)
      rw [phrases_append, phrases_map]
      exact List.append_nil _

theorem allows_follows {outputStarted : Bool} {state state' : TurnState}
    (h : point.allows outputStarted state = true)
    (hf : state' = state ∨ state.interruptible = true ∧ state' = .cancelled) :
    point.allows outputStarted state' = true := by
  obtain rfl | ⟨hi, rfl⟩ := hf
  · exact h
  · cases point
    case returned r => cases r <;> cases state <;> simp_all [VoicePoint.allows, TurnState.interruptible, TurnState.frozen]
    case leave r    => cases r <;> simp [VoicePoint.allows, TurnState.frozen]
    all_goals simp [VoicePoint.allows, TurnState.frozen]

theorem session_consistent (c : Consistent i seq t s turn) {e : SessionEvent} {session : ActiveSession}
    {o : List SessionObservation} (hf : e.foreign s.session i = true)
    (h : ActiveSession.machine.step s.session e = some (session, o)) :
    ∃ turn', Consistent i seq t { s with session } turn' := by
  obtain ⟨turn', ht, hn, hs⟩ := ActiveSession.foreign_follows c.turns hf h c.here
  refine ⟨turn', ActiveSession.step_turns_wellFormed c.turns h, ht, allows_follows c.allows hs, hn ▸ c.numbered,
    c.started, ?_⟩
  exact ⟨c.flow.order, c.flow.single, c.flow.before, c.flow.looping, c.flow.answered, c.flow.joined⟩

theorem clear_consistent (c : Consistent i seq t s turn) : Consistent i seq t { s with registry := ∅ } turn where
  turns    := c.turns
  here     := c.here
  allows   := c.allows
  numbered := ⟨c.numbered.sorted, c.numbered.below, c.numbered.segment, fun h => by simp at h⟩
  started  := c.started
  flow     := ⟨c.flow.order, c.flow.single, c.flow.before, c.flow.looping, c.flow.answered, c.flow.joined⟩

theorem step_consistent (c : Consistent i seq t s turn) {e : VoiceTurnEvent} (hk : s.settles engine i e = true)
    (h : (machine engine i seq).step s e = some (s', o)) : ∃ turn', Consistent i seq (t ++ o) s' turn' := by
  cases e <;> simp only [machine] at h
  case session e =>
    split_ifs at h with hf
    obtain ⟨⟨session, _⟩, hs, h⟩ := Option.map_eq_some_iff.mp h
    obtain ⟨rfl, rfl⟩ := Prod.mk.inj h
    rw [List.append_nil]
    exact session_consistent c hf hs
  case clear =>
    obtain ⟨rfl, rfl⟩ := Prod.mk.inj (Option.some.inj h)
    rw [List.append_nil]
    exact ⟨turn, clear_consistent c⟩
  case produce answer     => exact ⟨turn, produce_consistent c h⟩
  case consume now answer => exact consume_consistent c hk h

theorem session_wellFormed {t : List SessionObservation} {s : ActiveSession} (r : ActiveSession.machine.Run t s) :
    ∀ {j turn}, s.turns j = some turn → turn.state.WellFormed := by
  have h : ∀ j turn, s.turns j = some turn → turn.state.WellFormed := by
    apply r.state_invariant (P := fun s => ∀ j turn, s.turns j = some turn → turn.state.WellFormed)
    case hi =>
      rintro _ ⟨id, personaId, security, rfl⟩ j turn ht
      cases ht
    case h =>
      intro s₁ e s₂ o w hs j turn ht
      exact ActiveSession.step_turns_wellFormed (fun {j turn} => w j turn) hs ht
  exact fun {j turn} => h j turn

theorem init_consistent (h : (machine engine i seq).init s) : ∃ turn, Consistent i seq [] s turn := by
  obtain ⟨⟨_, r⟩, ⟨turn, ht, hseg, hp⟩, hr, hpr, hc, ho, hq⟩ := h
  have here := (ActiveSession.ofTurn_eq_some_iff.mp ht).left
  have hended : s.producer.ended = true := by simp [hpr, LlmProducer.ended]
  have hn {point : VoicePoint} (hs : point.segment = none) :
      Numbered seq s.registry s.outputSequences point turn.state.nextSegmentId := {
    sorted       := hq ▸ List.Pairwise.nil
    below k hk   := by simp [hq] at hk
    segment h    := by rw [hs] at h; cases h
    registered h := by rw [hr] at h; cases h }
  obtain ⟨hp, hs, -⟩ | ⟨hp | hp, hs⟩ := hp
  · refine ⟨turn, session_wellFormed r, here, ?_, hn (by rw [hp]; rfl), ?_, ?_⟩
    · simp [hp, VoicePoint.allows, hs]
    · simp [hp, hq, VoicePoint.outputs, VoicePoint.looping, VoicePoint.answer]
    · exact .of_before (by rw [hp]; rfl) hc hq ho hended
  · refine ⟨turn, session_wellFormed r, here, ?_, hn (by rw [hp]; rfl), ?_, ?_⟩
    · simpa [hp, VoicePoint.allows] using hs
    · simp [hp, hq, VoicePoint.outputs, VoicePoint.looping, VoicePoint.answer]
    · exact .of_before (by rw [hp]; rfl) hc hq ho hended
  · refine ⟨turn, session_wellFormed r, here, ?_, hn (by rw [hp]; rfl), ?_, ?_⟩
    · obtain hs | hs := hs <;> simp [hp, VoicePoint.allows, hs]
    · simp [hp, hq, VoicePoint.outputs, VoicePoint.looping, VoicePoint.answer]
    · exact {
        order      := List.prefix_rfl
        single     := ⟨[], rfl, Nat.zero_le _⟩
        before h   := by simp [hp, VoicePoint.before] at h
        looping h  := by simp [hp, VoicePoint.looping] at h
        answered h := by simp [hp, VoicePoint.answer] at h
        joined _   := hended }

-- What a call should have shown, and where it should leave its turn.
structure Ends (engine : VoiceEngine) (i : TurnAddress) (evidenceTurnSequence : Nat) (t : List VoiceObservation)
    (s : VoiceTurn) : Prop where
  order     : spokenPhrases t <+: generatedPhrases t
  single    : ∃ last, spokenPhrases t = deliveredPhrases t ++ last ∧ last.length ≤ 1
  completed : ∀ reply, s.point = .returned (.ok reply) →
    (deliveredPhrases t).flatten.filter (!isWhiteSpace ·) = reply.filter (!isWhiteSpace ·) ∧
    (emittedSequences t).length = (deliveredPhrases t).length ∧ (emittedSequences t).Pairwise (· < ·) ∧
    ∃ turn, s.turn i = some turn ∧ turn.state.state = .completed
  failed    : ∀ error, s.point = .returned (.error error) →
    ∃ turn, s.turn i = some turn ∧ turn.state.state ∈ [.failed, .denied, .cancelled] ∧
      ∀ g ∈ turn.state.outputSegments, g.evidence.state.isCancelled = true
  joined    : ∀ result, s.point = .returned result → s.producer.ended = true
  unblocked : (∀ result, s.point ≠ .returned result) →
    ∃ e : VoiceTurnEvent, e.own = true ∧ ((machine engine i evidenceTurnSequence).step s e).isSome = true

theorem produce_enabled (he : s.producer.ended = false) (hc : s.channel = [] ∨ s.point.receiving = false) :
    ∃ answer, (s.produce answer).isSome = true := by
  refine ⟨.error (.denied .turnCancelled), ?_⟩
  unfold produce
  split
  case h_1 =>
    obtain hc | hc := hc
    · simp only [hc, List.length_nil, channelBound]
      split_ifs <;> simp_all
    · simp [hc]
  case h_2 ho =>
    split
    case h_1 hp => simp [← Bool.not_eq_true, ended_iff, ho, hp] at he
    all_goals simp_all

theorem callMethod_isSome (here : s.session.turns i = some turn) (m : TurnMethod) :
    ∃ r session, s.session.callMethod i m none = some (r, session) :=
  ⟨_, _, ActiveSession.callMethod_eq here⟩

theorem consume_enabled (here : s.session.turns i = some turn) (hr : ∀ result, s.point ≠ .returned result)
    (hc : s.point = .receive → s.channel ≠ [] ∨ s.producer.ended = true)
    (hl : ∀ result, s.point = .leave result → s.producer.ended = true) :
    (s.consume engine i seq none (.ok ())).isSome = true := by
  have advance (m : TurnMethod) (follow : VoiceTurn) (shown : List VoiceObservation) :
      (s.advance i m none follow shown).isSome = true := by
    obtain ⟨r, session, hm⟩ := callMethod_isSome here m
    cases r <;> simp [VoiceTurn.advance, hm]
  cases hp : s.point <;> simp only [consume, hp]
  case authorize | beginProcessing | beginOutput | complete => exact advance ..
  case transcribe | instruct => split_ifs <;> rfl
  case prepare | emitSegment => rfl
  case receive =>
    unfold receive
    split
    case h_1 hn => simp [(hc hp).resolve_left (by simp [hn])]
    case h_2 => split_ifs <;> rfl
    case h_3 => rfl
    case h_4 => split_ifs <;> rfl
  case beginOutputSegment phrase =>
    obtain ⟨r, session, hm⟩ := callMethod_isSome here .beginOutputSegment
    simp [quietly, openSegment, VoiceTurn.turn, here, hm]
  case speak => split_ifs <;> rfl
  case acknowledgeOutputSent phrase segment =>
    obtain ⟨r, session, hm⟩ := callMethod_isSome here (.reconcile .sent segment)
    cases r <;> simp [hm]
  case registerDelivery => split <;> rfl
  case terminalize error =>
    simp only [quietly, Option.isSome_map, terminalize, VoiceTurn.turn, here, Option.bind_eq_bind, Option.bind_some]
    split <;> rfl
  case fail error =>
    obtain ⟨r, session, hm⟩ := callMethod_isSome here .fail
    cases r <;> simp [quietly, fail, hm]
  case refused reason => simp [quietly, refused, VoiceTurn.turn, here]
  case leave result =>
    have he := hl result hp
    cases result <;> simp only [quietly, Option.isSome_map, leave, he]
    case error => rfl
    case ok    => simp only [Bool.not_true, Bool.false_eq_true, if_false]; split_ifs <;> rfl
  case returned result => exact absurd hp (hr result)

-- A thread that waits for the channel waits for the other, which does not wait.
theorem Consistent.unblocked (c : Consistent i seq t s turn) (hr : ∀ result, s.point ≠ .returned result) :
    ∃ e : VoiceTurnEvent, e.own = true ∧ ((machine engine i seq).step s e).isSome = true := by
  have produces (he : s.producer.ended = false) (hc : s.channel = [] ∨ s.point.receiving = false) :
      ∃ e : VoiceTurnEvent, e.own = true ∧ ((machine engine i seq).step s e).isSome = true := by
    obtain ⟨answer, ha⟩ := produce_enabled he hc
    exact ⟨.produce answer, rfl, ha⟩
  have consumes (hc : s.point = .receive → s.channel ≠ [] ∨ s.producer.ended = true)
      (hl : ∀ result, s.point = .leave result → s.producer.ended = true) :
      ∃ e : VoiceTurnEvent, e.own = true ∧ ((machine engine i seq).step s e).isSome = true :=
    ⟨.consume none (.ok ()), rfl, consume_enabled c.here hr hc hl⟩
  cases he : s.producer.ended
  case true => exact consumes (fun _ => .inr he) fun _ _ => he
  case false =>
    by_cases hl : ∃ result, s.point = .leave result
    case pos =>
      obtain ⟨result, hp⟩ := hl
      exact produces he (.inr (by rw [hp]; rfl))
    case neg =>
      by_cases hc : s.channel = []
      case pos => exact produces he (.inl hc)
      case neg => exact consumes (fun _ => .inl hc) fun result hp => absurd ⟨result, hp⟩ hl

theorem Consistent.ends (c : Consistent i seq t s turn) : Ends engine i seq t s where
  order     := c.flow.order
  single    := c.flow.single
  completed reply hp := by
    obtain ⟨hw, he, hc⟩ : Answered reply t s.outputSequences := c.flow.answered (by rw [hp]; rfl)
    have ha := c.allows
    rw [hp] at ha
    refine ⟨hw, by rw [he, hc], he ▸ c.numbered.sorted, turn, c.here, ?_⟩
    simpa [VoicePoint.allows] using ha
  failed error hp := by
    have hf : turn.state.state.frozen = true := by
      have ha := c.allows
      rw [hp] at ha
      exact ha
    refine ⟨turn, c.here, ?_, fun g hg => ((c.turns c.here).isCancelled g hg).trans hf⟩
    cases hs : turn.state.state <;> simp [hs, TurnState.frozen] at hf ⊢
  joined result hp := c.flow.joined (by rw [hp]; rfl)
  unblocked        := c.unblocked

theorem consistent_of_run (r : ((machine engine i seq).guarded (settles engine i)).Run t s) :
    ∃ turn, Consistent i seq t s turn := by
  apply r.invariant (P := fun t s => ∃ turn, Consistent i seq t s turn)
  case hi => exact init_consistent
  case h =>
    rintro t s₁ e s₂ o ⟨turn, c⟩ h
    obtain ⟨hk, h⟩ := Machine.guarded_step_iff.mp h
    exact step_consistent c hk h

theorem run_ends (engine : VoiceEngine) (i : TurnAddress) (evidenceTurnSequence : Nat)
    (r : ((machine engine i evidenceTurnSequence).guarded (settles engine i)).Run t s) :
    Ends engine i evidenceTurnSequence t s := by
  obtain ⟨turn, c⟩ := consistent_of_run r
  exact c.ends

def exampleEngine : VoiceEngine where
  stt             := true
  llm             := true
  avatar          := true
  sessionAudience := some .owner
  tts             := false
  clientText      := false

def exampleSessionEvents (id : CanonicalId) (persona : PersonaIdentity) : List SessionEvent :=
  [.activate, .newTurn 0 id id persona, .method 0 .authorize (some 10), .method 0 .beginProcessing (some 20)]

-- A session in which the input of a voice turn has been accepted.
def exampleSession (id : CanonicalId) (persona : PersonaIdentity) (security : SessionSecurityConfig) : ActiveSession :=
  match ActiveSession.machine.replay (.new id id security) (exampleSessionEvents id persona) with
  | some (s, _) => s
  | none        => .new id id security

def exampleCall (id : CanonicalId) (persona : PersonaIdentity) (security : SessionSecurityConfig) : VoiceTurn where
  session         := exampleSession id persona security
  registry        := ∅
  producer        := ⟨[], .over⟩
  channel         := []
  outputStarted   := false
  outputSequences := []
  point           := .transcribe

-- The model answers with one phrase, which is spoken, sent and emitted before the turn completes.
theorem run_ends_spoken : ∃ t s, ((machine exampleEngine 0 1).guarded (settles exampleEngine 0)).Run t s ∧
    s.point = .returned (.ok ['H', 'i', '.']) ∧
    t = [.generated ['H', 'i', '.'], .speaking ['H', 'i', '.'], .delivered ['H', 'i', '.'], .emitted 1] ∧
    Ends exampleEngine 0 1 t s := by
  let id : CanonicalId := ⟨"canonical", by decide, by decide⟩
  let persona : PersonaIdentity := ⟨id, ⟨1, by decide⟩, .digitalTwin⟩
  let security : SessionSecurityConfig := ⟨⟨∅⟩, none, true, .granted, false⟩
  have rs : ActiveSession.machine.Run [] (exampleSession id persona security) :=
    .of_replay (.new id id security) (exampleSessionEvents id persona) ⟨id, id, security, rfl⟩ rfl
  obtain ⟨t, s, e, h⟩ : ∃ t s,
      ((machine exampleEngine 0 1).guarded (settles exampleEngine 0)).Steps (exampleCall id persona security) t s ∧
      decide (s.point = .returned (.ok ['H', 'i', '.']) ∧
        t = [.generated ['H', 'i', '.'], .speaking ['H', 'i', '.'], .delivered ['H', 'i', '.'], .emitted 1]) = true :=
    Machine.Steps.exists_of_replay_any
      ([.consume (some 30) (.ok ()), .consume (some 30) (.ok ()), .produce (.ok none),
        .produce (.ok (some ['H', 'i', '.'])), .produce (.ok none), .produce (.ok none), .produce (.ok none)] ++
        List.replicate 11 (.consume (some 30) (.ok ()))) (by decide +kernel)
  have r : ((machine exampleEngine 0 1).guarded (settles exampleEngine 0)).Run t s :=
    ⟨⟨⟨_, rs⟩, ⟨_, rfl, rfl, .inr ⟨.inl rfl, .inl rfl⟩⟩, rfl, rfl, rfl, rfl, rfl⟩, e⟩
  obtain ⟨hp, ht⟩ := of_decide_eq_true h
  exact ⟨t, s, r, hp, ht, run_ends exampleEngine 0 1 r⟩

-- The authority is revoked while the speech is being recognized. The turn cannot be failed any more, and
-- nobody has cancelled it.
theorem not_run_ends_revoked : ¬∀ (engine : VoiceEngine) (i : TurnAddress) (seq : Nat) t s,
    (machine engine i seq).Run t s → Ends engine i seq t s := by
  intro h
  let id : CanonicalId := ⟨"canonical", by decide, by decide⟩
  let persona : PersonaIdentity := ⟨id, ⟨1, by decide⟩, .digitalTwin⟩
  let security : SessionSecurityConfig := ⟨⟨∅⟩, none, true, .granted, false⟩
  have rs : ActiveSession.machine.Run [] (exampleSession id persona security) :=
    .of_replay (.new id id security) (exampleSessionEvents id persona) ⟨id, id, security, rfl⟩ rfl
  have r := Machine.Run.of_replay (m := machine exampleEngine 0 1) (exampleCall id persona security)
    [.session (.write .revoke), .consume (some 30) (.error (.runtime .turnCancelled)), .consume (some 30) (.ok ()),
      .consume (some 30) (.ok ()), .consume (some 30) (.ok ()), .consume (some 30) (.ok ())]
    ⟨⟨_, rs⟩, ⟨_, rfl, rfl, .inr ⟨.inl rfl, .inl rfl⟩⟩, rfl, rfl, rfl, rfl, rfl⟩ rfl
  obtain ⟨turn, ht, hs, -⟩ := (h _ _ _ _ _ r).failed _ rfl
  obtain rfl := Option.some.inj ht
  exact absurd hs (by decide)

end VoiceTurn
