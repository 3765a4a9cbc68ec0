import PersonaRuntime.Integration.LineFraming

-- The results of a reader up to the end or to the first error.
inductive Yields {σ α ε : Type} (next : σ → Except ε (Option α) × σ) : σ → List α × Option ε → Prop
  | ended {s s'} : (next s = (.ok none, s')) → Yields next s ([], none)
  | failed {s s' e} : (next s = (.error e, s')) → Yields next s ([], some e)
  | item {s s' a r} : (next s = (.ok (some a), s')) → Yields next s' r → Yields next s (a :: r.1, r.2)

namespace LineFraming

variable {bytes line rest : List UInt8} {max : Nat}

-- The lines of a stream: the parts between the line feeds, and what stands behind the last one unless
-- nothing does.
def frames (bytes : List UInt8) : List (List UInt8) :=
  let parts := bytes.splitOn lineFeed
  if parts.getLast? = some [] then parts.dropLast else parts

def decode (max : Nat) (frame : List UInt8) : Except ProviderError String :=
  if frame.length > max then
    .error .invalidResponse
  else
    match fromUtf8 (if [carriageReturn] <:+ frame then frame.dropLast else frame) with
    | some text => .ok text
    | none      => .error .invalidResponse

-- Everything up to the first frame that cannot be decoded.
def decodeAll (max : Nat) : List (List UInt8) → List String × Option ProviderError
  | []              => ([], none)
  | frame :: frames =>
    match decode max frame with
    | .ok text => (text :: (decodeAll max frames).1, (decodeAll max frames).2)
    | .error e => ([], some e)

-- What a reader of a stream has to give, however the stream is cut into reads.
def reference (max : Nat) (bytes : List UInt8) : List String × Option ProviderError :=
  decodeAll max (frames bytes)

theorem frames_nil : frames [] = [] :=
  rfl

theorem notMem_iff : lineFeed ∉ line ↔ ∀ b ∈ line, (b == lineFeed) = false := by
  constructor
  case mp =>
    intro h b hb
    rw [beq_eq_false_iff_ne]
    rintro rfl
    exact h hb
  case mpr =>
    intro h hb
    simpa using h lineFeed hb

theorem frames_line (h : lineFeed ∉ line) : frames (line ++ lineFeed :: rest) = line :: frames rest := by
  have hs : (line ++ lineFeed :: rest).splitOn lineFeed = line :: rest.splitOn lineFeed :=
    List.splitOnP_append_cons_of_forall_mem (notMem_iff.mp h) lineFeed (beq_self_eq_true _) rest
  have hn : rest.splitOn lineFeed ≠ [] := List.splitOnP_ne_nil _ _
  obtain ⟨parts, last, hp⟩ := (List.eq_nil_or_concat (rest.splitOn lineFeed)).resolve_left hn
  simp only [frames, hs]
  rw [hp, List.concat_eq_append]
  have hg : (line :: (parts ++ [last])).getLast? = some last := by rw [← List.cons_append, List.getLast?_concat]
  have hd : (line :: (parts ++ [last])).dropLast = line :: parts := by
    rw [← List.cons_append, List.dropLast_concat]
  rw [hg, hd, List.getLast?_concat, List.dropLast_concat]
  split <;> rfl

theorem frames_tail (h : lineFeed ∉ line) (hn : line ≠ []) : frames line = [line] := by
  have hs : line.splitOn lineFeed = [line] := List.splitOnP_eq_singleton (notMem_iff.mp h)
  simp [frames, hs, hn]

-- A frame starts with whatever has no line feed.
theorem frames_prefix (h : lineFeed ∉ line) (hn : line ≠ []) :
    ∃ more frames', frames (line ++ rest) = (line ++ more) :: frames' := by
  by_cases hr : lineFeed ∈ rest
  case pos =>
    obtain ⟨more, rest', rfl, hm⟩ := List.eq_append_cons_of_mem hr
    have hl : lineFeed ∉ line ++ more := by simp [h, hm]
    exact ⟨more, frames rest', by rw [← List.append_assoc, frames_line hl]⟩
  case neg =>
    have hl : lineFeed ∉ line ++ rest := by simp [h, hr]
    exact ⟨rest, [], frames_tail hl (by simp [hn])⟩

theorem finishFrame_eq (h : line.length ≤ max) : finishFrame line = (decode max line).map some := by
  have hc : line.getLast? = some carriageReturn ↔ [carriageReturn] <:+ line := by
    rw [List.getLast?_eq_some_iff]
    exact ⟨fun ⟨front, h⟩ => ⟨front, h.symm⟩, fun ⟨front, h⟩ => ⟨front, h.symm⟩⟩
  simp only [finishFrame, decode, Nat.not_lt.mpr h, if_false, hc]
  cases fromUtf8 (if [carriageReturn] <:+ line then line.dropLast else line) <;> rfl

-- Nothing stands behind the last line feed.
def terminated (bytes : List UInt8) : Bool :=
  bytes.getLast?.all (· == lineFeed)

-- The reference for a reader that answers with `closing` when it is called behind an unterminated line.
def referenceClosing (max : Nat) (closing : Option ProviderError) (bytes : List UInt8) :
    List String × Option ProviderError :=
  ((reference max bytes).1, (reference max bytes).2.or (if terminated bytes then none else closing))

theorem referenceClosing_none : referenceClosing max none bytes = reference max bytes := by
  simp [referenceClosing]

theorem terminated_line : terminated (line ++ lineFeed :: rest) = terminated rest := by
  cases h : rest.getLast? <;> simp [terminated, List.getLast?_append, List.getLast?_cons, h]

theorem terminated_tail (h : lineFeed ∉ line) (hn : line ≠ []) : terminated line = false := by
  obtain ⟨front, last, rfl⟩ := (List.eq_nil_or_concat line).resolve_left hn
  rw [List.concat_eq_append] at h ⊢
  have hl : last ≠ lineFeed := by
    rintro rfl
    simp at h
  simpa [terminated] using hl

-- What one call makes of the bytes that are left, and what it leaves of them if the stream goes on.
inductive Framed (max : Nat) : List UInt8 → Except ProviderError (Option String) → Option (List UInt8) → Prop
  | ended {after : Option (List UInt8)} : Framed max [] (.ok none) after
  | tooLong {line rest : List UInt8} {after : Option (List UInt8)} : (lineFeed ∉ line) → (max < line.length) →
    Framed max (line ++ rest) (.error .invalidResponse) after
  | line {line rest : List UInt8} : (lineFeed ∉ line) → (line.length ≤ max) →
    Framed max (line ++ lineFeed :: rest) (finishFrame line) (some rest)
  | tail {line : List UInt8} : (lineFeed ∉ line) → (line.length ≤ max) → (line ≠ []) → Framed max line (finishFrame line) none

-- The call behind the last line.
def Closes {σ : Type} (next : σ → Except ProviderError (Option String) × σ) (closing : Option ProviderError)
    (s : σ) : Prop :=
  (next s).1 = closing.elim (.ok none) .error

-- A reader all of whose calls frame the bytes gives the reference.
theorem yields_reference {σ : Type} {next : σ → Except ProviderError (Option String) × σ}
    {left : σ → List UInt8} {Ready : σ → Prop} {closing : Option ProviderError}
    (h : ∀ s, Ready s → ∃ after, Framed max (left s) (next s).1 after ∧
      ∀ a, (next s).1 = .ok (some a) →
        after.elim (Closes next closing (next s).2) fun rest => Ready (next s).2 ∧ left (next s).2 = rest)
    {s : σ} (hs : Ready s) : Yields next s (referenceClosing max closing (left s)) := by
  induction hn : (left s).length using Nat.strongRecOn generalizing s
  case ind n hi =>
    obtain ⟨after, hf, hr⟩ := h s hs
    have hp : next s = ((next s).1, (next s).2) := rfl
    generalize hb : left s = bytes at hf
    generalize hx : (next s).1 = x at hf hr
    cases hf
    case ended => exact .ended (hp.trans (by rw [hx]))
    case tooLong line rest hl hm =>
      have hn : line ≠ [] := fun h => by simp [h] at hm
      obtain ⟨more, frames', hf⟩ : ∃ more frames', frames (line ++ rest) = (line ++ more) :: frames' :=
        frames_prefix hl hn
      have hd : reference max (line ++ rest) = ([], some .invalidResponse) := by
        rw [reference, hf, decodeAll, decode, if_pos (by rw [List.length_append]; omega)]
      rw [referenceClosing, hd]
      exact .failed (hp.trans (by rw [hx]))
    case line line rest hf hm =>
      rw [referenceClosing, reference, frames_line hf, terminated_line, decodeAll]
      rw [finishFrame_eq hm] at hx hr
      cases hd : decode max line <;> rw [hd] at hx hr
      case error e => exact .failed (hp.trans (by rw [hx]; rfl))
      case ok text =>
        obtain ⟨hr, hl⟩ := hr text rfl
        refine .item (hp.trans (by rw [hx]; rfl)) (hl ▸ hi _ ?_ hr rfl)
        rw [hl, ← hn, hb, List.length_append, List.length_cons]
        omega
    case tail hf hm hn =>
      rw [referenceClosing, reference, frames_tail hf hn, terminated_tail hf hn, decodeAll]
      rw [finishFrame_eq hm] at hx hr
      cases hd : decode max bytes <;> rw [hd] at hx hr
      case error e => exact .failed (hp.trans (by rw [hx]; rfl))
      case ok text =>
        have hc : Closes next closing (next s).2 := hr text rfl
        have hp' : next (next s).2 = ((next (next s).2).1, (next (next s).2).2) := rfl
        change Yields next s (text :: [], closing)
        refine .item (r := ([], closing)) (hp.trans (by rw [hx]; rfl)) ?_
        cases closing
        case none   => exact .ended (hp'.trans (by rw [hc]; rfl))
        case some e => exact .failed (hp'.trans (by rw [hc]; rfl))

-- A reader has one sequence of results.
theorem Yields.unique {σ α ε : Type} {next : σ → Except ε (Option α) × σ} {s : σ} {r r' : List α × Option ε}
    (h : Yields next s r) (h' : Yields next s r') : r = r' := by
  induction h generalizing r'
  case ended h =>
    cases h'
    case ended       => rfl
    case failed h'   => cases h.symm.trans h'
    case item _ h'   => cases h.symm.trans h'
  case failed h =>
    cases h'
    case ended h'    => cases h.symm.trans h'
    case failed h'   =>
      cases h.symm.trans h'
      rfl
    case item _ h'   => cases h.symm.trans h'
  case item h _ hi =>
    cases h'
    case ended h'    => cases h.symm.trans h'
    case failed h'   => cases h.symm.trans h'
    case item hy h'  =>
      cases h.symm.trans h'
      rw [hi hy]

-- Where the first line feed of a buffer is.
theorem findIdx_lineFeed {n : Nat} (h : bytes.findIdx? (· == lineFeed) = some n) :
    lineFeed ∉ bytes.take n ∧ bytes.take n ++ lineFeed :: bytes.drop (n + 1) = bytes ∧ (bytes.take n).length = n := by
  induction bytes generalizing n
  case nil => cases h
  case cons b bytes hi =>
    rw [List.findIdx?_cons] at h
    split at h
    case isTrue hb =>
      cases h
      simpa using (eq_of_beq hb).symm
    case isFalse hb =>
      obtain ⟨m, hm, rfl⟩ := Option.map_eq_some_iff.mp h
      obtain ⟨hn, hs, hl⟩ := hi hm
      rw [List.take_succ_cons, List.drop_succ_cons, List.cons_append, hs, List.mem_cons, List.length_cons, hl]
      exact ⟨fun hl => hl.elim (fun hl => hb (by simp [hl])) hn, rfl, rfl⟩

theorem findIdx_noLineFeed (h : bytes.findIdx? (· == lineFeed) = none) : lineFeed ∉ bytes :=
  notMem_iff.mpr (List.findIdx?_eq_none_iff.mp h)

-- What is taken up to the first line feed, or to the end.
theorem take_lineFeed {n : Nat} (h : (bytes.findIdx? (· == lineFeed)).getD bytes.length = n) :
    lineFeed ∉ bytes.take n ∧ (bytes.take n).length = n := by
  cases hn : bytes.findIdx? (· == lineFeed) <;> rw [hn] at h
  case none =>
    subst h
    rw [Option.getD_none, List.take_length]
    exact ⟨findIdx_noLineFeed hn, rfl⟩
  case some m =>
    subst h
    obtain ⟨hf, -, hl⟩ := findIdx_lineFeed hn
    exact ⟨hf, hl⟩

end LineFraming

open LineFraming

namespace BoundedProviderLineReader

variable {b : BoundedProviderLineReader} {max : Nat}

def left (b : BoundedProviderLineReader) : List UInt8 :=
  b.pending ++ (b.reader.buffer ++ b.reader.reads.flatten)

structure Ready (max : Nat) (b : BoundedProviderLineReader) : Prop where
  reads   : ∀ read ∈ b.reader.reads, read ≠ []
  max     : b.maxLineBytes = max
  pending : b.pending = []

theorem fillBuf_left (r : BufferedReader) :
    r.fillBuf.buffer ++ r.fillBuf.reads.flatten = r.buffer ++ r.reads.flatten := by
  unfold BufferedReader.fillBuf
  split
  case h_1 hb hr => simp [hb, hr]
  case h_2       => rfl

theorem fillBuf_reads {r : BufferedReader} (h : ∀ read ∈ r.reads, read ≠ []) :
    ∀ read ∈ r.fillBuf.reads, read ≠ [] := by
  unfold BufferedReader.fillBuf
  split
  case h_1 hb hr => exact fun read hm => h read (by simp [hr, hm])
  case h_2       => exact h

-- The buffer only stays empty at the end.
theorem fillBuf_end {r : BufferedReader} (h : ∀ read ∈ r.reads, read ≠ []) (he : r.fillBuf.buffer = []) :
    r.buffer ++ r.reads.flatten = [] ∧ r.fillBuf.reads = [] := by
  unfold BufferedReader.fillBuf at he ⊢
  split at he
  case h_1 read reads hb hr => exact absurd he (h read (by simp [hr]))
  case h_2 hn =>
    cases hr : r.reads
    case nil             => simp [he]
    case cons read reads => exact absurd hr (hn read reads he)

-- What `yields_reference` asks of a call.
def Step (max : Nat) (bytes : List UInt8) (r : Except ProviderError (Option String) × BoundedProviderLineReader) :
    Prop :=
  ∃ after, Framed max bytes r.1 after ∧ ∀ a, r.1 = .ok (some a) →
    after.elim (Closes nextLine none r.2) fun rest => Ready max r.2 ∧ r.2.left = rest

theorem nextLine_end (hm : 0 < b.maxLineBytes) (hb : b.reader = ⟨[], []⟩) : Closes nextLine none b := by
  have he : b.reader.fillBuf.buffer = [] := by rw [hb]; rfl
  rw [Closes, nextLine, if_neg (Nat.pos_iff_ne_zero.mp hm), scan, dif_pos he]
  rfl

theorem scan_step (hr : ∀ read ∈ b.reader.reads, read ≠ []) (hz : 0 < max) (hm : b.maxLineBytes = max)
    (hp : lineFeed ∉ b.pending) (hl : b.pending.length ≤ max) : Step max b.left (scan b) := by
  induction b using scan.induct
  case case1 b he hz =>
    obtain ⟨hn, -⟩ := fillBuf_end hr he
    rw [scan, dif_pos he, if_pos hz, left, hn, List.isEmpty_iff.mp hz]
    exact ⟨none, .ended, nofun⟩
  case case2 b he hn =>
    obtain ⟨hb, hf⟩ := fillBuf_end hr he
    rw [scan, dif_pos he, if_neg hn, left, hb, List.append_nil]
    refine ⟨none, .tail hp hl fun h => hn (List.isEmpty_iff.mpr h), fun _ _ => nextLine_end (hm ▸ hz) ?_⟩
    rw [BufferedReader.mk.injEq]
    exact ⟨he, hf⟩
  case case3 b he newline hn hlong =>
    obtain ⟨hf, hs, ht⟩ := findIdx_lineFeed hn
    rw [scan, dif_neg he, hn]
    simp only [if_pos hlong]
    refine ⟨none, ?_, nofun⟩
    rw [left, ← fillBuf_left, ← hs, List.append_assoc, ← List.append_assoc]
    exact .tooLong (by simp [hp, hf]) (by rw [List.length_append, ht]; omega)
  case case4 b he newline hn hlong =>
    obtain ⟨hf, hs, ht⟩ := findIdx_lineFeed hn
    rw [scan, dif_neg he, hn]
    simp only [if_neg hlong]
    refine ⟨some (b.reader.fillBuf.buffer.drop (newline + 1) ++ b.reader.fillBuf.reads.flatten), ?_, fun _ _ =>
      ⟨⟨fillBuf_reads hr, hm, rfl⟩, rfl⟩⟩
    have hb : b.left = (b.pending ++ b.reader.fillBuf.buffer.take newline) ++ lineFeed ::
        (b.reader.fillBuf.buffer.drop (newline + 1) ++ b.reader.fillBuf.reads.flatten) := by
      rw [left, ← fillBuf_left]
      nth_rewrite 1 [← hs]
      simp
    rw [hb]
    exact .line (by simp [hp, hf]) (by rw [List.length_append, ht]; omega)
  case case5 b he hn hlong =>
    rw [scan, dif_neg he, hn]
    simp only [if_pos hlong]
    refine ⟨none, ?_, nofun⟩
    rw [left, ← fillBuf_left, ← List.append_assoc]
    exact .tooLong (by simp [hp, findIdx_noLineFeed hn]) (by rw [List.length_append]; omega)
  case case6 b he hn hlong _ hi =>
    rw [scan, dif_neg he, hn]
    simp only [if_neg hlong]
    have hs := hi (fillBuf_reads hr) hm (by simp [hp, findIdx_noLineFeed hn])
      (by rw [List.length_append]; omega)
    simpa [left, BufferedReader.consume, fillBuf_left] using hs

theorem nextLine_step (hz : 0 < max) (h : Ready max b) : Step max b.left (nextLine b) := by
  rw [nextLine, if_neg (by rw [h.max]; omega)]
  have hl : b.left = left { b with pending := [] } := by rw [left, left, h.pending]
  rw [hl]
  exact scan_step h.reads hz h.max (by simp) (by simp)

theorem nextLine_reference {reads : List (List UInt8)} (hz : 0 < max) (hr : ∀ read ∈ reads, read ≠ []) :
    Yields nextLine (new reads max) (reference max reads.flatten) := by
  rw [← referenceClosing_none]
  exact yields_reference (fun _ h => nextLine_step hz h) (⟨hr, rfl, rfl⟩ : Ready max (new reads max))

end BoundedProviderLineReader

namespace OpenAiTextStream

variable {s : OpenAiTextStream}

def left (s : OpenAiTextStream) : List UInt8 :=
  s.pending ++ (s.chunk.drop s.chunkOffset ++ s.response.elim [] List.flatten)

def Bounded (s : OpenAiTextStream) : Prop :=
  ∃ reads, s.response = some reads ∧ ∀ read ∈ reads, read.length ≤ maxProviderBinaryBodyBytes

structure Ready (s : OpenAiTextStream) : Prop where
  response : s.Bounded
  pending  : s.pending = []

def Step (bytes : List UInt8) (r : Except ProviderError (Option String) × OpenAiTextStream) : Prop :=
  ∃ after, Framed maxProviderStreamLineBytes bytes r.1 after ∧ ∀ a, r.1 = .ok (some a) →
    after.elim (Closes nextLine (some .invalidResponse) r.2) fun rest => Ready r.2 ∧ r.2.left = rest

-- The response is given up with the last line, and another call asks for it.
theorem nextLine_closed (hc : ¬s.chunkOffset < s.chunk.length) (hr : s.response = none) :
    Closes nextLine (some .invalidResponse) s := by
  rw [Closes, nextLine, dif_neg hc]
  split
  case h_1 => rfl
  all_goals simp [hr] at *

theorem nextLine_ended (hc : ¬s.chunkOffset < s.chunk.length) (hr : s.response = some []) :
    nextLine s =
      if s.pending.isEmpty then (.ok none, { s with response := none, chunk := [], chunkOffset := 0 })
      else if s.pending.length > maxProviderStreamLineBytes then
        (.error .invalidResponse, { s with response := none, chunk := [], chunkOffset := 0 })
      else (finishFrame s.pending, { response := none, pending := [], chunk := [], chunkOffset := 0 }) := by
  rw [nextLine, dif_neg hc]
  split
  case h_2 => rfl
  all_goals simp [hr] at *

theorem nextLine_read {read : List UInt8} {reads : List (List UInt8)} (hc : ¬s.chunkOffset < s.chunk.length)
    (hr : s.response = some (read :: reads)) (hl : ¬read.length > maxProviderBinaryBodyBytes) :
    nextLine s = nextLine { s with response := some reads, chunk := read, chunkOffset := 0 } := by
  rw [nextLine, dif_neg hc]
  split
  case h_3 hr' =>
    obtain ⟨rfl, rfl⟩ := by simpa [hr] using hr'
    rw [if_neg hl]
  all_goals simp [hr] at *

theorem left_spent (hc : ¬s.chunkOffset < s.chunk.length) : s.left = s.pending ++ s.response.elim [] List.flatten := by
  rw [left, List.drop_eq_nil_of_le (Nat.not_lt.mp hc), List.nil_append]

theorem nextLine_step (hb : s.Bounded) (hp : lineFeed ∉ s.pending)
    (hl : s.pending.length ≤ maxProviderStreamLineBytes) : Step s.left (nextLine s) := by
  induction s using nextLine.induct
  case case1 s hc newline lineBytes hlong =>
    obtain ⟨n, hn⟩ : ∃ n, lineBytes = n := ⟨_, rfl⟩
    obtain ⟨hf, ht⟩ := take_lineFeed hn
    rw [nextLine, dif_pos hc]
    simp only [newline, lineBytes] at hlong
    simp only [if_pos hlong]
    simp only [newline, lineBytes] at hn
    rw [hn] at hlong
    refine ⟨none, ?_, nofun⟩
    rw [left, ← List.take_append_drop n (s.chunk.drop s.chunkOffset), List.append_assoc, ← List.append_assoc]
    exact .tooLong (by simp [hp, hf]) (by rw [List.length_append, ht]; exact hlong)
  case case2 s hc newline lineBytes hlong n hn =>
    obtain ⟨hf, hs, ht⟩ := findIdx_lineFeed hn
    rw [nextLine, dif_pos hc]
    simp only [lineBytes, hn, Option.getD_some] at hlong
    simp only [newline] at hn
    simp only [hn, Option.getD_some, if_neg hlong]
    obtain ⟨reads, hr, hb⟩ := hb
    refine ⟨some (s.chunk.drop (s.chunkOffset + n + 1) ++ reads.flatten), ?_, fun _ _ =>
      ⟨⟨⟨reads, hr, hb⟩, rfl⟩, ?_⟩⟩
    case refine_1 =>
      have hl : s.left = (s.pending ++ (s.chunk.drop s.chunkOffset).take n) ++ lineFeed ::
          (s.chunk.drop (s.chunkOffset + n + 1) ++ reads.flatten) := by
        rw [left, hr]
        nth_rewrite 1 [← hs]
        simp [List.drop_drop, Nat.add_assoc]
      rw [hl]
      exact .line (by simp [hp, hf]) (by rw [List.length_append, ht]; omega)
    case refine_2 => simp [left, hr]
  case case3 s hc newline lineBytes hlong pending hn hi =>
    have hf := findIdx_noLineFeed hn
    simp only [lineBytes, hn, Option.getD_none] at hlong
    simp only [pending, lineBytes, hn, Option.getD_none, List.take_length] at hi
    rw [nextLine, dif_pos hc]
    simp only [newline] at hn
    simp only [hn, Option.getD_none, List.take_length, if_neg hlong]
    have hs := hi hb (by simp [hp, hf]) (by rw [List.length_append]; omega)
    simpa [left] using hs
  case case4 s hc hr =>
    obtain ⟨reads, hr', -⟩ := hb
    simp [hr] at hr'
  case case5 s hc hr he =>
    rw [nextLine_ended hc hr, if_pos he, left_spent hc, hr, List.isEmpty_iff.mp he]
    exact ⟨none, .ended, nofun⟩
  case case6 s hc hr he hlong => omega
  case case7 s hc hr he hlong =>
    rw [nextLine_ended hc hr, if_neg he, if_neg hlong, left_spent hc, hr]
    refine ⟨none, ?_, fun _ _ => nextLine_closed (by simp) rfl⟩
    simpa using Framed.tail hp hl (fun h => he (List.isEmpty_iff.mpr h))
  case case8 s hc read reads hr hlong =>
    obtain ⟨reads', hr', hb⟩ := hb
    obtain rfl : read :: reads = reads' := by simpa [hr] using hr'
    exact absurd (hb read (.head _)) (by omega)
  case case9 s hc read reads hr hlong hi =>
    rw [nextLine_read hc hr hlong]
    obtain ⟨reads', hr', hb⟩ := hb
    obtain rfl : read :: reads = reads' := by simpa [hr] using hr'
    have hs := hi ⟨reads, rfl, fun read hm => hb read (.tail _ hm)⟩ hp hl
    rw [left_spent hc, hr]
    simpa [left] using hs

theorem nextLine_referenceClosing {reads : List (List UInt8)}
    (hr : ∀ read ∈ reads, read.length ≤ maxProviderBinaryBodyBytes) :
    Yields nextLine (new reads)
      (referenceClosing maxProviderStreamLineBytes (some .invalidResponse) reads.flatten) :=
  yields_reference (fun _ h => nextLine_step h.response (by simp [h.pending]) (by simp [h.pending]))
    (⟨⟨reads, rfl, hr⟩, rfl⟩ : Ready (new reads))

end OpenAiTextStream

namespace LineFraming

variable {max : Nat}

-- The stream ends with a line feed, or it has a line that no reader gets past.
def Complete (max : Nat) (bytes : List UInt8) : Prop :=
  terminated bytes = true ∨ ∃ frame ∈ frames bytes, ∃ e, decode max frame = .error e

theorem decodeAll_error_iff {fs : List (List UInt8)} :
    (decodeAll max fs).2 = none ↔ ∀ frame ∈ fs, ∀ e, decode max frame ≠ .error e := by
  induction fs
  case nil => simp [decodeAll]
  case cons frame fs hi =>
    unfold decodeAll
    cases h : decode max frame
    case ok text => simpa [h] using hi
    case error e => simp [h]

theorem referenceClosing_eq_iff {e : ProviderError} {bytes : List UInt8} :
    referenceClosing max (some e) bytes = reference max bytes ↔ Complete max bytes := by
  have hn : (reference max bytes).2 = none ↔ _ := decodeAll_error_iff
  rw [referenceClosing, Prod.ext_iff]
  cases hr : (reference max bytes).2 <;> rw [hr] at hn
  case none =>
    have hd : ¬∃ frame ∈ frames bytes, ∃ e, decode max frame = .error e := by simpa using hn
    simp only [Complete, hd, or_false, true_and, Option.none_or]
    cases terminated bytes <;> simp
  case some x =>
    have hd : ∃ frame ∈ frames bytes, ∃ e, decode max frame = .error e := by simpa using hn
    simp [Complete, hd]

-- Both readers give the reference exactly when the stream is complete.
theorem nextLine_reference_iff {reads : List (List UInt8)} (hz : 0 < max) (hn : ∀ read ∈ reads, read ≠ [])
    (hr : ∀ read ∈ reads, read.length ≤ maxProviderBinaryBodyBytes) :
    (Yields BoundedProviderLineReader.nextLine (.new reads max) (reference max reads.flatten) ∧
      Yields OpenAiTextStream.nextLine (.new reads) (reference maxProviderStreamLineBytes reads.flatten)) ↔
      Complete maxProviderStreamLineBytes reads.flatten := by
  have hy := OpenAiTextStream.nextLine_referenceClosing hr
  rw [← referenceClosing_eq_iff]
  constructor
  case mp  => exact fun h => hy.unique h.right
  case mpr => exact fun h => ⟨BoundedProviderLineReader.nextLine_reference hz hn, h ▸ hy⟩

-- "data: 1", a line feed and "data: 2" in two reads.
def truncatedReads : List (List UInt8) := [[100, 97, 116, 97, 58, 32], [49, 10, 100, 97, 116, 97, 58, 32, 50]]

theorem nextLine_reference_truncated :
    (Yields BoundedProviderLineReader.nextLine (.new truncatedReads 7) (reference 7 truncatedReads.flatten) ∧
      Yields OpenAiTextStream.nextLine (.new truncatedReads)
        (reference maxProviderStreamLineBytes truncatedReads.flatten)) ↔
      Complete maxProviderStreamLineBytes truncatedReads.flatten :=
  nextLine_reference_iff (by decide) (by decide) (by decide)

-- The second line is given, but behind it the stream reports an invalid response.
theorem not_nextLine_reference : ¬ ∀ (max : Nat) (reads : List (List UInt8)), 0 < max →
    (∀ read ∈ reads, read ≠ []) → (∀ read ∈ reads, read.length ≤ maxProviderBinaryBodyBytes) →
      Yields BoundedProviderLineReader.nextLine (.new reads max) (reference max reads.flatten) ∧
      Yields OpenAiTextStream.nextLine (.new reads) (reference maxProviderStreamLineBytes reads.flatten) := by
  intro h
  have hy := (h 7 truncatedReads (by decide) (by decide) (by decide)).right
  have hr : (∀ read ∈ truncatedReads, read.length ≤ maxProviderBinaryBodyBytes) := by decide
  have he := (OpenAiTextStream.nextLine_referenceClosing hr).unique hy
  revert he
  decide +kernel

end LineFraming
