import PersonaRuntime.Integration.PcmStream

namespace PcmStream

variable {ε : Type} {done bytes : List UInt8} {s : PcmStream}

-- A receiver that takes whole samples.
def TakesSamples (receive : List UInt8 → Except ε Unit) : Prop :=
  ∀ chunk, chunk ≠ [] → chunk.length % 2 = 0 → receive chunk = .ok ()

-- Everything that was read is with the receiver, in whole samples, but for the odd byte.
structure Aligned (done : List UInt8) (s : PcmStream) : Prop where
  whole : s.pushed.flatten ++ s.pendingByte.toList = done
  even  : ∀ chunk ∈ s.pushed, chunk ≠ [] ∧ chunk.length % 2 = 0

theorem even_flatten {chunks : List (List UInt8)} (h : ∀ chunk ∈ chunks, chunk ≠ [] ∧ chunk.length % 2 = 0) :
    chunks.flatten.length % 2 = 0 := by
  induction chunks
  case nil => rfl
  case cons chunk chunks hi =>
    simp only [List.mem_cons, forall_eq_or_imp] at h
    have hc := h.left.right
    have hr := hi h.right
    simp only [List.flatten_cons, List.length_append]
    omega

-- There is an odd byte just when an odd number of bytes was read.
theorem Aligned.pending_iff (a : Aligned done s) : s.pendingByte.isSome = true ↔ done.length % 2 = 1 := by
  have he := even_flatten a.even
  have hw := congrArg List.length a.whole
  rw [List.length_append] at hw
  cases hp : s.pendingByte <;> simp only [hp, Option.toList_none, Option.toList_some, List.length_nil,
    List.length_singleton, Option.isSome_none, Option.isSome_some] at hw ⊢ <;> simp <;> omega

theorem push_run {receive : List UInt8 → Except ε Unit} (h : TakesSamples receive) {chunk : List UInt8}
    (hn : chunk ≠ []) (he : chunk.length % 2 = 0) :
    (push receive chunk).run s = .ok () { s with pushed := s.pushed ++ [chunk] } := by
  simp [push, h chunk hn he]

-- A stream that has handed on `chunks` of what waited and of what was read, and keeps the rest.
def next (s : PcmStream) (chunks : List (List UInt8)) (pending : Option UInt8) : PcmStream where
  pendingByte := pending
  pushed      := s.pushed ++ chunks

theorem Aligned.next {chunks : List (List UInt8)} {pending : Option UInt8} (a : Aligned done s)
    (hc : chunks.flatten ++ pending.toList = s.pendingByte.toList ++ bytes)
    (he : ∀ chunk ∈ chunks, chunk ≠ [] ∧ chunk.length % 2 = 0) :
    Aligned (done ++ bytes) (s.next chunks pending) where
  whole := by simp only [PcmStream.next, List.flatten_append, List.append_assoc, hc, ← a.whole]
  even chunk h := (List.mem_append.mp h).elim (a.even chunk) (he chunk)

theorem takePending_run : (takePending : EStateM ε PcmStream (Option UInt8)).run s =
    .ok s.pendingByte { s with pendingByte := none } :=
  rfl

-- What is left behind the last whole sample.
theorem drop_eq_toList {n : Nat} (h : n ≤ bytes.length) (hl : bytes.length ≤ n + 1) :
    bytes.drop n = (if n < bytes.length then some (bytes.getD n 0) else none).toList := by
  split
  case isTrue hn =>
    rw [List.drop_eq_getElem_cons hn, List.drop_eq_nil_of_le hl]
    simp [List.getD_eq_getElem?_getD, hn]
  case isFalse hn => exact List.drop_eq_nil_of_le (by omega)

-- The chunk between two indices, unless it is empty.
def between (bytes : List UInt8) (start stop : Nat) : List (List UInt8) :=
  if stop > start then [(bytes.take stop).drop start] else []

theorem flatten_between (bytes : List UInt8) (start stop : Nat) :
    (between bytes start stop).flatten = (bytes.take stop).drop start := by
  unfold between
  split
  case isTrue    => simp
  case isFalse h => exact (List.drop_eq_nil_of_le (by simp; omega)).symm

theorem even_between {start stop : Nat} (hs : stop ≤ bytes.length) (he : (stop - start) % 2 = 0) :
    ∀ chunk ∈ between bytes start stop, chunk ≠ [] ∧ chunk.length % 2 = 0 := by
  intro chunk h
  unfold between at h
  split at h
  case isFalse => cases h
  case isTrue hn =>
    obtain rfl := List.mem_singleton.mp h
    have hl : ((bytes.take stop).drop start).length = stop - start := by simp; omega
    exact ⟨List.ne_nil_of_length_pos (by omega), by omega⟩

-- The end of a consumer that works on its buffer in place.
theorem tail_run {receive : List UInt8 → Except ε Unit} (h : TakesSamples receive) {start stop : Nat}
    (hs : stop ≤ bytes.length) (he : (stop - start) % 2 = 0) (last : UInt8) :
    (do
      if stop > start then
        push receive ((bytes.take stop).drop start)
      if stop < bytes.length then
        modify ({ · with pendingByte := some last }) : EStateM ε PcmStream Unit).run s =
    .ok () {
      pendingByte := if stop < bytes.length then some last else s.pendingByte
      pushed      := s.pushed ++ between bytes start stop } := by
  have hb := even_between hs he
  unfold between at hb ⊢
  by_cases hn : stop > start
  case pos =>
    simp only [hn, if_true] at hb ⊢
    have ⟨hc, he⟩ := hb _ (List.mem_singleton.mpr rfl)
    by_cases hl : stop < bytes.length <;>
      simp only [hl, if_true, if_false, EStateM.run_bind, push_run h hc he] <;> rfl
  case neg =>
    by_cases hl : stop < bytes.length <;> simp only [hn, hl, if_true, if_false, List.append_nil] <;> rfl

-- What the two consumers that work on their buffer in place do; `last` is how they read the odd byte.
def inPlace (receive : List UInt8 → Except ε Unit) (last : Nat → UInt8) (bytes : List UInt8) :
    EStateM ε PcmStream Unit := do
  let start ← match ← takePending with
    | some first => do
      push receive [first, bytes.getD 0 0]
      pure 1
    | none => pure 0
  let stop := start + (bytes.length - start) / 2 * 2
  if stop > start then
    push receive ((bytes.take stop).drop start)
  if stop < bytes.length then
    modify ({ · with pendingByte := some (last stop) })

theorem inPlace_run {receive : List UInt8 → Except ε Unit} {last : Nat → UInt8} (h : TakesSamples receive)
    (hl : ∀ n, n < bytes.length → bytes.length ≤ n + 1 → last n = bytes.getD n 0) (a : Aligned done s)
    (hb : bytes ≠ []) :
    ∃ s', (inPlace receive last bytes).run s = .ok () s' ∧ Aligned (done ++ bytes) s' := by
  have hd {n : Nat} (hs : n ≤ bytes.length) (hn : bytes.length ≤ n + 1) :
      (if n < bytes.length then some (last n) else none).toList = bytes.drop n := by
    rw [drop_eq_toList hs hn]
    split
    case isTrue hx => rw [hl n hx hn]
    case isFalse => rfl
  cases hp : s.pendingByte
  case none =>
    simp only [inPlace, EStateM.run_bind, takePending_run, hp, EStateM.run_pure]
    refine ⟨_, tail_run h (by omega) (by omega) _, a.next ?_ (even_between (by omega) (by omega))⟩
    rw [flatten_between, hd (by omega) (by omega), hp]
    simp
  case some first =>
    obtain ⟨b, rest, rfl⟩ := List.exists_cons_of_ne_nil hb
    simp only [inPlace, EStateM.run_bind, takePending_run, hp, EStateM.run_pure]
    rw [push_run h (by simp) (by simp)]
    simp only [List.length_cons, Nat.add_sub_cancel] at hd ⊢
    have hs : 1 + rest.length / 2 * 2 ≤ (b :: rest).length := by
      simp only [List.length_cons]
      omega
    refine ⟨_, tail_run h hs (by omega) _, ?_⟩
    have ha : Aligned (done ++ b :: rest) (s.next
        ([first, b] :: between (b :: rest) 1 (1 + rest.length / 2 * 2))
        (if 1 + rest.length / 2 * 2 < rest.length + 1 then some (last (1 + rest.length / 2 * 2)) else none)) := by
      refine a.next ?_ fun chunk hc => ?_
      case refine_1 =>
        rw [List.flatten_cons, flatten_between, List.append_assoc, hd (by omega) (by omega), hp]
        simp [Nat.add_comm 1, List.take_append_drop]
      case refine_2 =>
        obtain rfl | hc := List.mem_cons.mp hc
        · simp
        · exact even_between hs (by omega) chunk hc
    simpa [PcmStream.next] using ha

-- What a body that is read into a stream of samples leaves: `ok` says that the call succeeds.
structure Realigns (limit : Nat) (body : List UInt8) (ok : Bool) (pushed : List (List UInt8)) : Prop where
  even     : ∀ chunk ∈ pushed, chunk ≠ [] ∧ chunk.length % 2 = 0
  isPrefix : pushed.flatten <+: body
  limited  : pushed.flatten.length ≤ limit
  succeeds : ok = true ↔ 0 < body.length ∧ body.length % 2 = 0 ∧ body.length ≤ limit
  whole    : ok = true → pushed.flatten = body

-- Whether a call returns without an error, and what it leaves.
def isOk {α σ : Type} : EStateM.Result ε σ α → Bool
  | .ok ..    => true
  | .error .. => false

def leaves {α σ : Type} : EStateM.Result ε σ α → σ
  | .ok _ s | .error _ s => s

-- A call on a body, from its start.
def Realigning {α : Type} (limit : Nat) (body : List UInt8) (x : EStateM ε (Nat × PcmStream) α) : Prop :=
  Realigns limit body (isOk (x.run (0, new))) (leaves (x.run (0, new))).2.pushed

-- The bytes that were read are counted, and within the limit.
structure Counted (limit : Nat) (done : List UInt8) (s : Nat × PcmStream) : Prop where
  count   : s.1 = done.length
  limited : done.length ≤ limit
  aligned : Aligned done s.2

theorem Counted.nil {limit : Nat} : Counted limit [] (0, new) where
  count   := rfl
  limited := Nat.zero_le _
  aligned := ⟨rfl, nofun⟩

-- What a read over the limit leaves.
def Stopped (limit : Nat) (body : List UInt8) (s : Nat × PcmStream) : Prop :=
  limit < body.length ∧ ∃ done, done <+: body ∧ done.length ≤ limit ∧ Aligned done s.2

theorem Aligned.flatten_prefix (a : Aligned done s) : s.pushed.flatten <+: done :=
  ⟨_, a.whole⟩

theorem Stopped.realigns {limit : Nat} {body : List UInt8} {s : Nat × PcmStream} (h : Stopped limit body s) :
    Realigns limit body false s.2.pushed := by
  obtain ⟨hl, done, hd, hn, a⟩ := h
  exact {
    even     := a.even
    isPrefix := a.flatten_prefix.trans hd
    limited  := a.flatten_prefix.length_le.trans hn
    succeeds := by simp; omega
    whole    := nofun }

-- The check behind the loop.
theorem Counted.realigns {limit : Nat} {body : List UInt8} {s : Nat × PcmStream} (h : Counted limit body s) :
    Realigns limit body (!decide (s.1 = 0 ∨ s.2.pendingByte.isSome = true)) s.2.pushed := by
  have hp := h.aligned.pending_iff
  exact {
    even     := h.aligned.even
    isPrefix := h.aligned.flatten_prefix
    limited  := h.aligned.flatten_prefix.length_le.trans h.limited
    succeeds := by
      have hl := h.limited
      simp only [hp, h.count, Bool.not_eq_true', decide_eq_false_iff_not]
      omega
    whole ho := by
      simp only [Bool.not_eq_true', decide_eq_false_iff_not, not_or, Bool.not_eq_true, Option.isSome_eq_false_iff,
        Option.isNone_iff_eq_none] at ho
      rw [← h.aligned.whole, ho.right, Option.toList_none, List.append_nil] }

theorem onStream_run {x : EStateM ε PcmStream Unit} {n : Nat} {s' : PcmStream} (h : x.run s = .ok () s') :
    (onStream x).run (n, s) = .ok () (n, s') := by
  simp [onStream, EStateM.zoom_run, h]

-- A consumer that keeps the stream aligned.
def Consumes (consume : List UInt8 → EStateM ε PcmStream Unit) : Prop :=
  ∀ {done bytes s}, Aligned done s → bytes ≠ [] →
    ∃ s', (consume bytes).run s = .ok () s' ∧ Aligned (done ++ bytes) s'

-- A piece that goes over the limit leaves the stream as it was.
theorem Counted.stopped {limit : Nat} {whole piece rest : List UInt8} {s : Nat × PcmStream}
    (h : Counted limit done s) (hw : whole = done ++ piece ++ rest) (hl : limit < done.length + piece.length)
    (n : Nat) : Stopped limit whole (n, s.2) :=
  ⟨by simp only [hw, List.length_append]; omega, done, ⟨piece ++ rest, by rw [hw, List.append_assoc]⟩,
    h.limited, h.aligned⟩

-- A loop whose body counts and consumes what fits, and stops at the piece that does not.
theorem readLoop_counted (limit : Nat) (room : Nat × PcmStream → Nat)
    (body : List UInt8 → EStateM ε (Nat × PcmStream) Unit) (r : Reader UInt8)
    {consume : List UInt8 → EStateM ε PcmStream Unit} (h : Consumes consume) (hr : ∀ s, 0 < room s)
    (hgo : ∀ {bytes n s s'}, n + bytes.length ≤ limit → (consume bytes).run s = .ok () s' →
      (body bytes).run (n, s) = .ok () (n + bytes.length, s'))
    (hstop : ∀ {bytes n s}, n ≤ limit → limit < n + bytes.length → ∃ e m, (body bytes).run (n, s) = .error e (m, s)) :
    (∃ s, (readLoop room body r).run (0, new) = .ok () s ∧ Counted limit r.rest s) ∨
      ∃ e s, (readLoop room body r).run (0, new) = .error e s ∧ Stopped limit r.rest s := by
  refine readLoop_run hr ?_ Counted.nil (List.nil_append _).symm
  intro done piece rest s hw hn _ hp
  obtain ⟨n, s⟩ := s
  obtain rfl : n = done.length := hp.count
  by_cases hl : done.length + piece.length ≤ limit
  case pos =>
    obtain ⟨s', hs, a⟩ := h hp.aligned hn
    refine .inl ⟨_, hgo hl hs, ?_, ?_, a⟩ <;> simp [hl]
  case neg =>
    obtain ⟨e, m, hs⟩ := hstop (s := s) hp.limited (Nat.lt_of_not_le hl)
    exact .inr ⟨e, _, hs, hp.stopped hw (Nat.lt_of_not_le hl) m⟩

end PcmStream

open PcmStream

theorem readBoundedProviderStream_run {consume : List UInt8 → EStateM ProviderError PcmStream Unit}
    (h : Consumes consume) {maxBytes : Nat} (hm : 0 < maxBytes) {contentLength : Option Nat} {r : Reader UInt8}
    (hc : contentLength = none ∨ contentLength = some r.rest.length) :
    (∃ s, (readBoundedProviderStream contentLength maxBytes consume r).run (0, new) = .ok s.1 s ∧
      Counted maxBytes r.rest s) ∨
    ∃ e s, (readBoundedProviderStream contentLength maxBytes consume r).run (0, new) = .error e s ∧
      Stopped maxBytes r.rest s := by
  have hz : maxBytes ≠ 0 := by omega
  by_cases hl : contentLength.any (maxBytes < ·) = true
  case pos =>
    obtain rfl | rfl := hc
    case inl => cases hl
    case inr =>
      have hx : maxBytes < r.rest.length := by simpa using hl
      refine .inr ⟨.invalidResponse, (0, new), ?_, hx, [], List.nil_prefix, Nat.zero_le _, rfl, nofun⟩
      simp [readBoundedProviderStream, hz, hx]
  case neg =>
    have hb := readLoop_counted maxBytes (fun s => min (maxBytes - s.1 + 1) 8192)
      (fun bytes => do
        let remaining := maxBytes - (← get).1
        if bytes.length > remaining then
          throw .invalidResponse
        onStream (consume bytes)
        modify fun s => (s.1 + bytes.length, s.2)) r h (by intro s; omega) ?_ ?_
    case refine_1 =>
      intro bytes n s s' hl hs
      have hx : ¬ bytes.length > maxBytes - n := by omega
      simp [hx, onStream_run hs]
    case refine_2 =>
      intro bytes n s hn hl
      have hx : bytes.length > maxBytes - n := by omega
      exact ⟨.invalidResponse, n, by simp [hx]⟩
    simp only [readBoundedProviderStream, hz, hl, if_false]
    obtain ⟨s, hs, hq⟩ | ⟨e, s, hs, hq⟩ := hb
    case inl => exact .inl ⟨s, by simp [hs], hq⟩
    case inr => exact .inr ⟨e, s, by simp [hs], hq⟩

namespace OpenAiSpeech

variable {done bytes : List UInt8} {s : PcmStream} {receive : List UInt8 → Except ProviderError Unit}

theorem consume_run (h : TakesSamples receive) (a : Aligned done s) (hb : bytes ≠ []) :
    ∃ s', (consume receive bytes).run s = .ok () s' ∧ Aligned (done ++ bytes) s' := by
  have hn : s.pendingByte.toList ++ bytes ≠ [] := by simp [hb]
  simp only [consume, EStateM.run_bind, takePending_run]
  generalize hx : s.pendingByte.toList ++ bytes = chunk at hn
  by_cases he : chunk.length % 2 = 0
  case pos =>
    have hm : (!chunk.isEmpty) = true := by simpa using hn
    refine ⟨s.next [chunk] none, ?_, a.next (by simp [hx]) fun chunk hc => ?_⟩
    · simp only [he, ne_eq, not_true_eq_false, if_false, EStateM.run_bind, EStateM.run_pure, hm, if_true,
        push_run h hn he]
      rfl
    · obtain rfl := List.mem_singleton.mp hc
      exact ⟨hn, he⟩
  case neg =>
    obtain ⟨front, last, rfl⟩ := (List.eq_nil_or_concat chunk).resolve_left hn
    rw [List.concat_eq_append] at hx he ⊢
    have hf : front.length % 2 = 0 := by
      simp only [List.length_append, List.length_singleton] at he
      omega
    by_cases hz : front = []
    case pos =>
      refine ⟨s.next [] (some last), ?_, a.next (by simp [hx, hz]) nofun⟩
      simp [hz, PcmStream.next]
    case neg =>
      refine ⟨s.next [front] (some last), ?_, a.next (by simp [hx]) fun chunk hc => ?_⟩
      · have hm : (!front.isEmpty) = true := by simpa using hz
        simp only [he, ne_eq, not_false_eq_true, if_true, EStateM.run_bind, EStateM.run_modify, EStateM.run_pure,
          List.dropLast_concat, List.getLast?_concat, hm, push_run h hz hf]
        rfl
      · obtain rfl := List.mem_singleton.mp hc
        exact ⟨hz, hf⟩

theorem streamPcmBody_realigns (h : TakesSamples receive) (sampleRateHz textChars : Nat) (r : Reader UInt8) :
    Realigning maxProviderBinaryBodyBytes r.rest (streamPcmBody sampleRateHz textChars receive r) := by
  have hr := readLoop_counted maxProviderBinaryBodyBytes (fun _ => 8192)
    (fun bytes => do
      let total := (← get).1 + bytes.length
      if total > maxProviderBinaryBodyBytes then
        throw .invalidResponse
      modify fun s => (total, s.2)
      onStream (consume receive bytes)) r (consume_run h) (fun _ => by decide) ?_ ?_
  case refine_1 =>
    intro bytes n s s' hl hs
    have hx : ¬ n + bytes.length > maxProviderBinaryBodyBytes := by omega
    simp [hx, onStream_run hs]
  case refine_2 =>
    intro bytes n s _ hl
    exact ⟨.invalidResponse, n, by simp [hl]⟩
  obtain ⟨s, hs, hq⟩ | ⟨e, s, hs, hq⟩ := hr
  case inr =>
    simp only [Realigning, streamPcmBody, EStateM.run_bind, hs]
    exact hq.realigns
  case inl =>
    have hk := hq.realigns
    simp only [Realigning, streamPcmBody, EStateM.run_bind, hs, EStateM.run_get]
    by_cases hx : s.1 = 0 ∨ s.2.pendingByte.isSome = true <;> simp only [hx, if_true, if_false] <;>
      simpa [hx, isOk, leaves] using hk

end OpenAiSpeech

namespace ElevenLabs

variable {done bytes : List UInt8} {s : PcmStream} {receive : List UInt8 → Except ProviderError Unit}

theorem consume_run (h : TakesSamples receive) (a : Aligned done s) (hb : bytes ≠ []) :
    ∃ s', (consume receive bytes).run s = .ok () s' ∧ Aligned (done ++ bytes) s' :=
  inPlace_run h (fun _ _ _ => rfl) a hb

theorem streamPcm_realigns (h : TakesSamples receive) {contentLength : Option Nat} {r : Reader UInt8}
    (hc : contentLength = none ∨ contentLength = some r.rest.length) :
    Realigning maxProviderBinaryBodyBytes r.rest (streamPcm contentLength receive r) := by
  have hm : 0 < maxProviderBinaryBodyBytes := by decide
  have hr := readBoundedProviderStream_run (consume_run h) hm hc
  obtain ⟨s, hs, hq⟩ | ⟨e, s, hs, hq⟩ := hr
  case inr =>
    simp only [Realigning, streamPcm, EStateM.run_bind, hs]
    exact hq.realigns
  case inl =>
    have hk := hq.realigns
    simp only [Realigning, streamPcm, EStateM.run_bind, hs, EStateM.run_get]
    by_cases hx : s.1 = 0 ∨ s.2.pendingByte.isSome = true <;> simp only [hx, if_true, if_false] <;>
      simpa [hx, isOk, leaves] using hk

end ElevenLabs
