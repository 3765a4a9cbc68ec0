import PersonaRuntime.Runtime.CancellableTcpWriter

namespace TcpObservation

def accepted : TcpObservation → List UInt8
  | handed _ accepted => accepted
  | _                 => []

-- What ends the life of the response: a revocation or a call that fails.
def ends : TcpObservation → Bool
  | revoked | returned (.error _) => true
  | _                             => false

-- What does not begin or end a call.
def inner : TcpObservation → Bool
  | started _ | returned _ => false
  | _                      => true

-- What a dead response may still show.
def silent : TcpObservation → Bool
  | handed .. | returned (.ok _) => false
  | _                            => true

end TcpObservation

namespace TcpWrite.Point

-- The bytes that a call which has not failed has still to send.
def remaining? : Point → Option (List UInt8)
  | checkRevoked remaining | checkDeadline remaining | setWriteTimeout remaining _ | write remaining
  | recheckRevoked remaining => some remaining
  | sent                     => some []
  | _                        => none

-- The points that a call can get to when the flag is set before it starts.
def refusing : Point → Bool
  | idle | checkRevoked _ | failed _ | timeoutFailed _ | dropped => true
  | _                                                            => false

end TcpWrite.Point

namespace CancellableTcpWriter

open TcpWrite

variable {s s' : CancellableTcpWriter} {e : TcpEvent} {t o : List TcpObservation}

-- The call that is being executed at the end of `t` has got the socket to accept all of its bytes but
-- `remaining`.
def Sending (t : List TcpObservation) (remaining : List UInt8) : Prop :=
  ∃ before bytes call, t = before ++ .started bytes :: call ∧ (∀ x ∈ call, x.inner = true) ∧
    call.flatMap (·.accepted) ++ remaining = bytes

-- What a response promises at any point of a run.
structure StaysDead (t : List TcpObservation) (s : CancellableTcpWriter) : Prop where
  delivered : ∀ {t₁ t₂}, t = t₁ ++ .returned (.ok ()) :: t₂ → Sending t₁ []
  revoked   : ∀ {x}, x ∈ t → x.ends = true → s.isRevoked = true
  silent    : ∀ {t₁ bytes t₂}, t = t₁ ++ .started bytes :: t₂ → (∃ x ∈ t₁, x.ends = true) →
    ∀ x ∈ t₂, x.silent = true

-- No call returns the error of `set_write_timeout` while the flag is not set.
def fenced (s : CancellableTcpWriter) : TcpEvent → Bool
  | .resume =>
    match s.point with
    | .timeoutFailed _ => s.revoked
    | _                => true
  | _ => true

-- What the steps of the writer can do.
inductive Move (s : CancellableTcpWriter) : CancellableTcpWriter → List TcpObservation → Prop
  | revoke : Move s s.revoke [.revoked]
  | start {bytes} : (s.point = .idle) → Move s { s with point := .checkRevoked bytes } [.started bytes]
  | drop : (s.point = .idle) → Move s { s.revoke with point := .dropped } []
  | send : (s.point = .checkRevoked []) → (s.revoked = false) → Move s { s with point := .sent } []
  -- From one point of the call to another with the same bytes remaining.
  | pass {bytes point} : (s.point.remaining? = some bytes) → (point.remaining? = some bytes) →
    (point ≠ .sent) → (s.revoked = true → s.point.refusing = false) → Move s { s with point } []
  | refuse : (s.point.remaining?.isSome = true) → (s.revoked = true) →
    Move s { s with point := .failed revokedError } []
  | expire {bytes} : (s.point = .checkDeadline bytes) → Move s { s with point := .abort deadlineError } []
  | timeout {bytes left wait} : (s.point = .setWriteTimeout bytes left) →
    Move s { s with point := .write bytes } [.timeout wait]
  | timeoutFailed {bytes left error wait} : (s.point = .setWriteTimeout bytes left) →
    Move s { s with point := .timeoutFailed error } [.timeout wait]
  | accept {bytes chunk accepted rest} : (s.point = .write bytes) → (accepted ++ rest = bytes) →
    Move s { s with point := .checkRevoked rest } [.handed chunk accepted]
  | again {bytes chunk} : (s.point = .write bytes) →
    Move s { s with point := .recheckRevoked bytes } [.handed chunk []]
  | close {bytes chunk error} : (s.point = .write bytes) →
    Move s { s with point := .abort error } [.handed chunk []]
  | abort {error} : (s.point = .abort error) → Move s { s.revoke with point := .failed error } []
  | fail {error} : (s.point = .failed error) → Move s { s with point := .idle } [.returned (.error error)]
  | failUnfenced {error} : (s.point = .timeoutFailed error) →
    Move s { s with point := .idle } [.returned (.error error)]
  | succeed : (s.point = .sent) → Move s { s with point := .idle } [.returned (.ok ())]

theorem resume_move (h : s.resume = some (s', o)) : s.Move s' o := by
  unfold resume at h
  split at h
  case h_1 bytes hp =>
    have hb : s.point.remaining? = some bytes := by rw [hp]; rfl
    split_ifs at h with he hr hr <;> cases h
    · exact .refuse (by rw [hb]; rfl) hr
    · cases List.isEmpty_iff.mp he
      exact .send hp (by simpa using hr)
    · exact .refuse (by rw [hb]; rfl) hr
    · exact .pass hb rfl nofun (absurd · hr)
  case h_2 bytes hp =>
    have hb : s.point.remaining? = some bytes := by rw [hp]; rfl
    split_ifs at h with hr <;> cases h
    case pos => exact .refuse (by rw [hb]; rfl) hr
    case neg => exact .pass hb rfl nofun (absurd · hr)
  case h_3 hp =>
    cases h
    exact .abort hp
  case h_4 hp =>
    cases h
    exact .fail hp
  case h_5 hp =>
    cases h
    exact .failUnfenced hp
  case h_6 hp =>
    cases h
    exact .succeed hp
  case h_7 => cases h

theorem checkDeadline_move {instant : Nat} {bytes : List UInt8} (h : s.point = .checkDeadline bytes) :
    s.Move { s with point := s.checkDeadline instant bytes } [] := by
  unfold checkDeadline
  split_ifs
  case pos | pos => exact .expire h
  case neg       => exact .pass (by rw [h]; rfl) rfl nofun (by simp [h, Point.refusing])

theorem write_move {bytes chunk : List UInt8} {answer : Except SocketError Nat} {point : Point} {written : Nat}
    (h : s.point = .write bytes) (hc : chunk = bytes.take (min bytes.length maxWriteChunk))
    (hw : write bytes answer = some (point, written)) :
    s.Move { s with point } [.handed chunk (chunk.take written)] := by
  unfold write at hw
  split at hw
  case h_1 =>
    split_ifs at hw with hl hz
    case pos =>
      cases hw
      exact .close h
    case neg =>
      cases hw
      have ha : chunk.take written = bytes.take written := by
        rw [hc, List.take_take, Nat.min_eq_left (Nat.not_lt.mp hl)]
      rw [ha]
      exact .accept h (List.take_append_drop ..)
  case h_2 =>
    split at hw <;> cases hw
    case h_4 => exact .close h
    all_goals exact .again h

theorem step_move (h : machine.step s e = some (s', o)) : s.Move s' o := by
  cases e <;> simp only [machine] at h
  case revoke =>
    cases h
    exact .revoke
  case writeAllBounded bytes =>
    split_ifs at h with hp
    cases h
    exact .start hp
  case drop =>
    split_ifs at h with hp
    cases h
    exact .drop hp
  case resume => exact resume_move h
  case now =>
    split at h <;> cases h
    exact checkDeadline_move ‹_›
  case setWriteTimeout answer =>
    split at h
    case h_1 hp =>
      cases answer <;> cases h
      case ok    => exact .timeout hp
      case error => exact .timeoutFailed hp
    case h_2 => cases h
  case write answer =>
    split at h
    case h_1 hp =>
      obtain ⟨⟨point, written⟩, hw, h⟩ := Option.map_eq_some_iff.mp h
      cases h
      exact write_move hp rfl hw
    case h_2 => cases h

theorem Sending.start {bytes : List UInt8} : Sending (t ++ [.started bytes]) bytes :=
  ⟨t, bytes, [], rfl, nofun, rfl⟩

theorem Sending.inner {x : TcpObservation} {bytes rest : List UInt8} (h : Sending t bytes)
    (hx : x.inner = true) (hb : x.accepted ++ rest = bytes) : Sending (t ++ [x]) rest := by
  obtain ⟨before, sent, call, rfl, hi, hs⟩ := h
  refine ⟨before, sent, call ++ [x], by simp, fun y hy => ?_, by simp [← hs, ← hb]⟩
  obtain hy | hy := List.mem_append.mp hy
  case inl => exact hi y hy
  case inr => exact List.mem_singleton.mp hy ▸ hx

theorem Move.revoked (m : s.Move s' o) (h : s.revoked = true) : s'.revoked = true := by
  cases m
  case revoke | drop | abort => rfl
  all_goals exact h

theorem Move.sending (m : s.Move s' o) (h : ∀ {bytes}, s.point.remaining? = some bytes → Sending t bytes)
    {bytes : List UInt8} (hb : s'.point.remaining? = some bytes) : Sending (t ++ o) bytes := by
  cases m
  case revoke => exact (h hb).inner rfl rfl
  case start =>
    cases hb
    exact .start
  case send hp _ =>
    cases hb
    rw [List.append_nil]
    exact h (by rw [hp]; rfl)
  case pass hp hp' _ _ =>
    obtain rfl := Option.some.inj (hp'.symm.trans hb)
    rw [List.append_nil]
    exact h hp
  case timeout hp =>
    cases hb
    exact (h (by rw [hp]; rfl)).inner rfl rfl
  case accept hp ha =>
    cases hb
    exact (h (by rw [hp]; rfl)).inner rfl ha
  case again hp =>
    cases hb
    exact (h (by rw [hp]; rfl)).inner rfl rfl
  all_goals cases hb

-- Once the flag is set, a call that has not started shows nothing but its error.
theorem Move.refusing (m : s.Move s' o) (hr : s.revoked = true) (hp : s.point.refusing = true) :
    s'.point.refusing = true ∧ ∀ x ∈ o, x.silent = true := by
  cases m
  case send h            => simp [hr] at h
  case pass hf           => simp [hf hr] at hp
  case revoke            => exact ⟨hp, by simp [TcpObservation.silent]⟩
  case expire h          => simp [h, Point.refusing] at hp
  case timeout h         => simp [h, Point.refusing] at hp
  case timeoutFailed h   => simp [h, Point.refusing] at hp
  case accept h _        => simp [h, Point.refusing] at hp
  case again h           => simp [h, Point.refusing] at hp
  case close h           => simp [h, Point.refusing] at hp
  case abort h           => simp [h, Point.refusing] at hp
  case succeed h         => simp [h, Point.refusing] at hp
  all_goals exact ⟨rfl, by simp [TcpObservation.silent]⟩

structure Consistent (t : List TcpObservation) (s : CancellableTcpWriter) : Prop extends StaysDead t s where
  sending  : ∀ {bytes}, s.point.remaining? = some bytes → Sending t bytes
  failed   : ∀ {error}, s.point = .failed error → s.revoked = true
  refusing : ∀ {t₁ bytes t₂}, t = t₁ ++ .started bytes :: t₂ → (∃ x ∈ t₁, x.ends = true) →
    s.point.refusing = true

theorem Move.observed (m : s.Move s' o) : o = [] ∨ ∃ x, o = [x] := by
  cases m
  case drop | send | pass | refuse | expire | abort => exact .inl rfl
  all_goals exact .inr ⟨_, rfl⟩

theorem Move.succeeds (m : s.Move s' [.returned (.ok ())]) : s.point = .sent := by
  cases m
  case succeed h => exact h

theorem Move.starts {bytes : List UInt8} (m : s.Move s' [.started bytes]) : s'.point.refusing = true := by
  cases m
  case start => rfl

theorem Consistent.ends {x : TcpObservation} (c : Consistent t s) (m : s.Move s' o)
    (hf : ∀ {error}, s.point = .timeoutFailed error → .returned (.error error) ∈ o → s.revoked = true)
    (hx : x ∈ o) (he : x.ends = true) : s'.revoked = true := by
  cases m
  case revoke               => rfl
  case fail hp              => exact c.failed hp
  case failUnfenced hp      => exact hf hp (.head _)
  case drop | send | pass | refuse | expire | abort => cases hx
  all_goals
    obtain rfl := List.mem_singleton.mp hx
    cases he

theorem Move.failed {error : SocketError} (m : s.Move s' o) (h : s'.point = .failed error) :
    s'.revoked = true := by
  cases m
  case revoke | abort => rfl
  case refuse hr      => exact hr
  case pass hp _ _    =>
    cases h
    cases hp
  all_goals cases h

theorem Consistent.step (c : Consistent t s) (m : s.Move s' o)
    (hf : ∀ {error}, s.point = .timeoutFailed error → .returned (.error error) ∈ o → s.revoked = true) :
    Consistent (t ++ o) s' where
  delivered h := by
    obtain rfl | ⟨x, rfl⟩ := m.observed
    case inl => exact c.delivered (by rwa [List.append_nil] at h)
    case inr =>
      obtain ⟨rfl, rfl, rfl⟩ | ⟨t₂', rfl, rfl⟩ := Machine.split_snoc h
      case inl => exact c.sending (by rw [m.succeeds]; rfl)
      case inr => exact c.delivered rfl
  revoked hx he := by
    obtain hx | hx := List.mem_append.mp hx
    case inl => exact m.revoked (c.revoked hx he)
    case inr => exact c.ends m hf hx he
  silent h hd y hy := by
    obtain rfl | ⟨x, rfl⟩ := m.observed
    case inl => exact c.silent (by rwa [List.append_nil] at h) hd y hy
    case inr =>
      obtain ⟨rfl, rfl, rfl⟩ | ⟨t₂', rfl, rfl⟩ := Machine.split_snoc h
      case inl => cases hy
      case inr =>
        obtain hy | hy := List.mem_append.mp hy
        case inl => exact c.silent rfl hd y hy
        case inr =>
          obtain ⟨x', hx', he⟩ := hd
          have hr := c.revoked (List.mem_append_left _ hx') he
          exact (m.refusing hr (c.refusing rfl ⟨x', hx', he⟩)).right y hy
  sending  := m.sending c.sending
  failed   := m.failed
  refusing h hd := by
    have hr {t₁ bytes t₂} (h : t = t₁ ++ .started bytes :: t₂) (hd : ∃ x ∈ t₁, x.ends = true) :
        s'.point.refusing = true := by
      obtain ⟨x, hx, he⟩ := hd
      exact (m.refusing (c.revoked (h ▸ List.mem_append_left _ hx) he) (c.refusing h ⟨x, hx, he⟩)).left
    obtain rfl | ⟨x, rfl⟩ := m.observed
    case inl => exact hr (by rwa [List.append_nil] at h) hd
    case inr =>
      obtain ⟨rfl, rfl, rfl⟩ | ⟨t₂', -, ht⟩ := Machine.split_snoc h
      case inl => exact m.starts
      case inr => exact hr ht hd

theorem revoked_of_fenced {error : SocketError} (hf : fenced s e = true) (h : machine.step s e = some (s', o))
    (hp : s.point = .timeoutFailed error) (ho : .returned (.error error) ∈ o) : s.revoked = true := by
  cases e <;> simp only [machine, hp, reduceCtorEq, if_false] at h
  case revoke =>
    cases h
    cases List.mem_singleton.mp ho
  case resume => simpa only [fenced, hp] using hf

theorem Consistent.init (h : machine.init s) : Consistent [] s where
  delivered h := by simp at h
  revoked hx  := by cases hx
  silent h    := by simp at h
  sending hb  := by rw [h.right] at hb; cases hb
  failed hp   := by cases h.right.symm.trans hp
  refusing h  := by simp at h

-- In a run without such a return, the response is sent as a whole or fails for good.
theorem run_staysDead (r : (machine.guarded fenced).Run t s) : StaysDead t s := by
  have hc : Consistent t s := by
    apply r.invariant
    case hi => exact Consistent.init
    case h  =>
      intro _ _ _ _ _ c h
      obtain ⟨hf, hs⟩ := Machine.guarded_step_iff.mp h
      exact c.step (step_move hs) (revoked_of_fenced hf hs)
  exact hc.toStaysDead

-- A revocation in the middle of a call. Neither the rest of it nor the next call is sent.
theorem run_staysDead_revoked :
    StaysDead [.started [1, 2], .timeout maxSyscallWait, .handed [1, 2] [1], .revoked,
        .returned (.error revokedError), .started [9], .returned (.error revokedError)]
      ⟨1000000000, true, .idle⟩ :=
  run_staysDead <| .of_replay ⟨1000000000, false, .idle⟩
    [.writeAllBounded [1, 2], .resume, .now 0, .setWriteTimeout (.ok ()), .write (.ok 1), .revoke, .resume,
      .resume, .writeAllBounded [9], .resume, .resume]
    ⟨rfl, rfl⟩ rfl

-- Such a return ends it.
theorem step_unfenced (h : machine.step s e = some (s', o)) (hf : fenced s e = false) :
    ¬ StaysDead (t ++ o) s' := by
  intro d
  unfold fenced at hf
  split at hf
  case h_2 => cases hf
  case h_1 =>
    split at hf
    case h_2 => cases hf
    case h_1 error hp =>
      simp only [machine, resume, hp] at h
      cases h
      have hr := d.revoked (List.mem_append_right t (.head _)) rfl
      exact Bool.false_ne_true (hf.symm.trans hr)

-- A partial write and a failing `set_write_timeout` cut the response short. The next call goes on with
-- other bytes.
theorem run_staysDead_timeoutFailed : ¬ ∀ t s, machine.Run t s → StaysDead t s := by
  intro h
  let before : List TcpObservation := [.started [1, 2], .timeout maxSyscallWait, .handed [1, 2] [1],
    .timeout maxSyscallWait, .returned (.error ⟨.other 22, "Invalid argument"⟩)]
  have hr : machine.Run (before ++ [.started [9], .timeout maxSyscallWait, .handed [9] [9]])
      ⟨1000000000, false, .checkRevoked []⟩ :=
    .of_replay ⟨1000000000, false, .idle⟩
      [.writeAllBounded [1, 2], .resume, .now 0, .setWriteTimeout (.ok ()), .write (.ok 1), .resume, .now 1,
        .setWriteTimeout (.error ⟨.other 22, "Invalid argument"⟩), .resume, .writeAllBounded [9], .resume,
        .now 2, .setWriteTimeout (.ok ()), .write (.ok 1)]
      ⟨rfl, rfl⟩ rfl
  have hd := (h _ _ hr).silent rfl ⟨.returned (.error ⟨.other 22, "Invalid argument"⟩), by simp [before], rfl⟩
  cases hd (.handed [9] [9]) (.tail _ (.head _))

end CancellableTcpWriter
