import Mathlib.Data.List.Forall2
import PersonaRuntime.Evaluation.Golden
import PersonaRuntime.Text.Lowercase

namespace GoldenExpectation

def sentinels : GoldenExpectation → List String
  | noPrivateSentinels sentinels => sentinels
  | _                            => []

def requiredTokens : GoldenExpectation → List String
  | responseContainsAll tokens => tokens
  | _                          => []

end GoldenExpectation

namespace GoldenCase

def sentinels (c : GoldenCase) : List String :=
  c.expectations.flatMap (·.sentinels)

def requiredTokens (c : GoldenCase) : List String :=
  c.expectations.flatMap (·.requiredTokens)

end GoldenCase

-- `response.contains(token)`
def GoldenObservation.Verbatim (response token : String) : Prop :=
  token.toList <:+: response.toList

section Evaluate

open GoldenObservation

variable {lowercase : String → String} {suite : GoldenSuite} {c : GoldenCase} {o : GoldenObservation}
variable {observations observations' : List GoldenObservation} {report : GoldenReport}

-- What the result of a case has to say.
structure FaithfulResult (observations : List GoldenObservation) (c : GoldenCase) (result : GoldenCaseResult) :
    Prop where
  caseId     : result.caseId = c.id
  leak       : ∀ {o response sentinel}, o ∈ observations → o.caseId = c.id →
    o.responseText = some response → sentinel ∈ c.sentinels → Verbatim response sentinel →
    .privateContextLeak ∈ result.failures ∧ result.passed = false
  required   : ∀ {o response}, o ∈ observations → o.caseId = c.id → o.responseText = some response →
    (∀ token ∈ c.requiredTokens, Verbatim response token) → .missingRequiredText ∉ result.failures
  unobserved : (∀ o ∈ observations, o.caseId ≠ c.id) → result.passed = false

structure FaithfulReport (lowercase : String → String) (suite : GoldenSuite)
    (observations : List GoldenObservation) (report : GoldenReport) : Prop where
  cases    : suite.cases.Forall₂ (FaithfulResult observations) report.cases
  total    : report.total = suite.cases.length
  passed   : report.passed = report.cases.countP (·.passed)
  sum      : report.passed + report.failed = report.total
  permuted : ∀ {observations'}, observations.Perm observations' →
    evaluateGoldenSuite lowercase suite observations' = .ok report

-- What is in the response of a case verbatim is in it after `str::to_lowercase`, or another sentinel of
-- the case is.
def Recognizable (lowercase : String → String) (suite : GoldenSuite) (observations : List GoldenObservation) :
    Prop :=
  ∀ c ∈ suite.cases, ∀ o ∈ observations, o.caseId = c.id → ∀ response, o.responseText = some response →
    ((∃ sentinel ∈ c.sentinels, Verbatim response sentinel) →
      ∃ sentinel ∈ c.sentinels, mentions lowercase response sentinel = true) ∧
    ((∀ token ∈ c.requiredTokens, Verbatim response token) →
      ∀ token ∈ c.requiredTokens, mentions lowercase response token = true)

theorem evaluateAttribution_notMem {eligible : Bool} {evidence : Option AttributionEvidence} :
    .privateContextLeak ∉ evaluateAttribution eligible evidence ∧
    .missingRequiredText ∉ evaluateAttribution eligible evidence := by
  unfold evaluateAttribution
  split <;> split_ifs <;> simp

theorem leak_mem_evaluateExpectation {e : GoldenExpectation} :
    .privateContextLeak ∈ evaluateExpectation lowercase o e ↔
      ∃ response, o.responseText = some response ∧ ∃ s ∈ e.sentinels, mentions lowercase response s = true := by
  cases e <;> simp only [evaluateExpectation, GoldenExpectation.sentinels]
  case noPrivateSentinels sentinels =>
    cases o.responseText
    case none => simp
    case some response =>
      by_cases h : sentinels.any (mentions lowercase response) = true
      case pos =>
        simp only [if_pos h]
        simpa using h
      case neg =>
        simp only [if_neg h]
        simpa using h
  case responseContainsAll => split <;> (try split_ifs) <;> simp
  case ownerAttribution    => simp [evaluateAttribution_notMem.left]
  case reasonCode          => split <;> (try split_ifs) <;> simp
  case unplayedTailNotSpoken => split <;> simp
  case personaIdentityStable => split <;> (try split_ifs) <;> simp

theorem missing_mem_evaluateExpectation {e : GoldenExpectation} :
    .missingRequiredText ∈ evaluateExpectation lowercase o e ↔
      ∃ response, o.responseText = some response ∧
        ∃ s ∈ e.requiredTokens, mentions lowercase response s = false := by
  cases e <;> simp only [evaluateExpectation, GoldenExpectation.requiredTokens]
  case responseContainsAll tokens =>
    cases o.responseText
    case none => simp
    case some response =>
      by_cases h : tokens.any (!mentions lowercase response ·) = true
      case pos =>
        simp only [if_pos h]
        simpa using h
      case neg =>
        simp only [if_neg h]
        simpa using h
  case noPrivateSentinels => split <;> (try split_ifs) <;> simp
  case ownerAttribution   => simp [evaluateAttribution_notMem.right]
  case reasonCode         => split <;> (try split_ifs) <;> simp
  case unplayedTailNotSpoken => split <;> simp
  case personaIdentityStable => split <;> (try split_ifs) <;> simp

theorem leak_mem_evaluateCase :
    .privateContextLeak ∈ (evaluateCase lowercase c (some o)).failures ↔
      ∃ response, o.responseText = some response ∧ ∃ s ∈ c.sentinels, mentions lowercase response s = true := by
  simp only [evaluateCase, List.mem_flatMap, leak_mem_evaluateExpectation, GoldenCase.sentinels]
  constructor
  case mp =>
    intro ⟨e, he, response, hr, s, hs, hm⟩
    exact ⟨response, hr, s, ⟨e, he, hs⟩, hm⟩
  case mpr =>
    intro ⟨response, hr, s, ⟨e, he, hs⟩, hm⟩
    exact ⟨e, he, response, hr, s, hs, hm⟩

theorem missing_mem_evaluateCase :
    .missingRequiredText ∈ (evaluateCase lowercase c (some o)).failures ↔
      ∃ response, o.responseText = some response ∧
        ∃ s ∈ c.requiredTokens, mentions lowercase response s = false := by
  simp only [evaluateCase, List.mem_flatMap, missing_mem_evaluateExpectation, GoldenCase.requiredTokens]
  constructor
  case mp =>
    intro ⟨e, he, response, hr, s, hs, hm⟩
    exact ⟨response, hr, s, ⟨e, he, hs⟩, hm⟩
  case mpr =>
    intro ⟨response, hr, s, ⟨e, he, hs⟩, hm⟩
    exact ⟨e, he, response, hr, s, hs, hm⟩

-- One round of the loop of `index_observations`.
def GoldenSuite.index (suite : GoldenSuite) (indexed : List (String × GoldenObservation))
    (o : GoldenObservation) : Except GoldenSuiteError (List (String × GoldenObservation)) :=
  if o.caseId ∉ suite.cases.map (·.id) then .error .unknownObservationCase
  else if (indexed.lookup o.caseId).isSome then .error .duplicateObservation
  else .ok ((o.caseId, o) :: indexed)

theorem index_eq_ok_iff {before indexed : List (String × GoldenObservation)} :
    suite.index before o = .ok indexed ↔
      o.caseId ∈ suite.cases.map (·.id) ∧ before.lookup o.caseId = none ∧ (o.caseId, o) :: before = indexed := by
  simp only [GoldenSuite.index, Except.ite_error_eq_ok_iff, not_not, Except.ok.injEq, Bool.not_eq_true,
    Option.isSome_eq_false_iff, Option.isNone_iff_eq_none]

theorem foldlM_index_eq_ok_iff {before indexed : List (String × GoldenObservation)} :
    observations.foldlM suite.index before = .ok indexed ↔
      (∀ o ∈ observations, o.caseId ∈ suite.cases.map (·.id)) ∧
        (∀ o ∈ observations, before.lookup o.caseId = none) ∧ (observations.map (·.caseId)).Nodup ∧
          (observations.map fun o => (o.caseId, o)).reverse ++ before = indexed := by
  induction observations generalizing before
  case nil => simp [pure, Except.pure]
  case cons o observations hi =>
    have hb : (o :: observations).foldlM suite.index before = .ok indexed ↔
        ∃ next, suite.index before o = .ok next ∧ observations.foldlM suite.index next = .ok indexed := by
      rw [List.foldlM_cons]
      cases suite.index before o <;> simp [bind, Except.bind]
    have hn : ∀ o' : GoldenObservation, ((o.caseId, o) :: before).lookup o'.caseId = none ↔
        o'.caseId ≠ o.caseId ∧ before.lookup o'.caseId = none := by
      intro o'
      rw [List.lookup_cons]
      by_cases h : o'.caseId = o.caseId
      case pos => simp [h]
      case neg => simp only [beq_false_of_ne h, ne_eq, h, not_false_eq_true, true_and]
    have hm : o.caseId ∉ observations.map (·.caseId) ↔ ∀ o' ∈ observations, o'.caseId ≠ o.caseId := by simp
    simp only [hb, index_eq_ok_iff, hi, List.forall_mem_cons, List.map_cons, List.nodup_cons, hm,
      List.reverse_cons, List.append_assoc, List.singleton_append]
    constructor
    case mp =>
      rintro ⟨_, ⟨hc, hl, rfl⟩, hcs, hls, hd, he⟩
      simp only [hn] at hls
      exact ⟨⟨hc, hcs⟩, ⟨hl, fun o' ho => (hls o' ho).right⟩, ⟨fun o' ho => (hls o' ho).left, hd⟩, he⟩
    case mpr =>
      intro ⟨⟨hc, hcs⟩, ⟨hl, hls⟩, ⟨hd, hds⟩, he⟩
      exact ⟨_, ⟨hc, hl, rfl⟩, hcs, fun o' ho => (hn o').mpr ⟨hd o' ho, hls o' ho⟩, hds, he⟩

-- The observations are accepted exactly when each is of a case of the suite and no two are of one case.
theorem indexObservations_eq_ok_iff {indexed : List (String × GoldenObservation)} :
    indexObservations suite observations = .ok indexed ↔
      (∀ o ∈ observations, o.caseId ∈ suite.cases.map (·.id)) ∧ (observations.map (·.caseId)).Nodup ∧
        (observations.map fun o => (o.caseId, o)).reverse = indexed := by
  rw [show indexObservations suite observations = observations.foldlM suite.index [] from rfl,
    foldlM_index_eq_ok_iff]
  simp

theorem lookup_map_eq_some_iff {os : List GoldenObservation} {id : String} (h : (os.map (·.caseId)).Nodup) :
    (os.map fun o => (o.caseId, o)).lookup id = some o ↔ o ∈ os ∧ o.caseId = id := by
  induction os
  case nil => simp
  case cons o' os hi =>
    obtain ⟨hn, h⟩ := List.nodup_cons.mp h
    rw [List.map_cons, List.lookup_cons]
    by_cases hid : id = o'.caseId
    case pos =>
      subst hid
      simp only [beq_self_eq_true, Option.some.injEq, List.mem_cons]
      constructor
      case mp =>
        rintro rfl
        exact ⟨.inl rfl, rfl⟩
      case mpr =>
        rintro ⟨rfl | hm, he⟩
        · rfl
        · exact absurd (List.mem_map.mpr ⟨o, hm, he⟩) hn
    case neg =>
      rw [beq_false_of_ne hid, hi h, List.mem_cons]
      apply and_congr_left
      rintro rfl
      refine (or_iff_right ?_).symm
      rintro rfl
      exact hid rfl

-- The index finds the observation of a case.
theorem indexObservations_lookup {indexed : List (String × GoldenObservation)} {id : String}
    (h : indexObservations suite observations = .ok indexed) :
    indexed.lookup id = some o ↔ o ∈ observations ∧ o.caseId = id := by
  obtain ⟨-, hn, rfl⟩ := indexObservations_eq_ok_iff.mp h
  have hr : (observations.reverse.map (·.caseId)).Nodup := by
    rw [List.map_reverse]
    exact List.nodup_reverse.mpr hn
  rw [← List.map_reverse, lookup_map_eq_some_iff hr, List.mem_reverse]

-- Another order of the observations gives the same index.
theorem indexObservations_perm {indexed : List (String × GoldenObservation)}
    (hp : observations.Perm observations') (h : indexObservations suite observations = .ok indexed) :
    ∃ indexed', indexObservations suite observations' = .ok indexed' ∧
      ∀ id, indexed'.lookup id = indexed.lookup id := by
  obtain ⟨hc, hn, -⟩ := indexObservations_eq_ok_iff.mp h
  have h' := indexObservations_eq_ok_iff.mpr
    ⟨fun o ho => hc o (hp.mem_iff.mpr ho), (hp.map (·.caseId)).nodup_iff.mp hn, rfl⟩
  refine ⟨_, h', fun id => Option.ext fun o => ?_⟩
  rw [indexObservations_lookup h', indexObservations_lookup h, hp.mem_iff]

-- The report that the suite gets for the observations that `find` knows.
def GoldenSuite.reportOf (lowercase : String → String) (suite : GoldenSuite)
    (find : String → Option GoldenObservation) : GoldenReport :=
  let cases := suite.cases.map fun c => evaluateCase lowercase c (find c.id)
  let passed := (cases.filter (·.passed)).length
  { schemaVersion := suite.schemaVersion, suiteId := suite.suiteId, total := cases.length, passed,
    failed := cases.length - passed, cases }

theorem evaluateGoldenSuite_eq_ok_iff :
    evaluateGoldenSuite lowercase suite observations = .ok report ↔
      (∃ ids, suite.validate = .ok ids) ∧ ∃ indexed, indexObservations suite observations = .ok indexed ∧
        suite.reportOf lowercase (fun id => indexed.lookup id) = report := by
  unfold evaluateGoldenSuite
  cases suite.validate
  case error => simp [bind, Except.bind]
  case ok    =>
    cases indexObservations suite observations
    case error => simp [bind, Except.bind]
    case ok    =>
      constructor
      case mp =>
        intro h
        cases h
        exact ⟨⟨_, rfl⟩, _, rfl, rfl⟩
      case mpr =>
        rintro ⟨-, _, h, rfl⟩
        cases h
        rfl

theorem reportOf_cases_iff {find : String → Option GoldenObservation} :
    suite.cases.Forall₂ (FaithfulResult observations) (suite.reportOf lowercase find).cases ↔
      ∀ c ∈ suite.cases, FaithfulResult observations c (evaluateCase lowercase c (find c.id)) := by
  rw [GoldenSuite.reportOf, List.forall₂_map_right_iff, List.forall₂_same]

theorem faithfulResult_iff {indexed : List (String × GoldenObservation)}
    (h : indexObservations suite observations = .ok indexed) :
    FaithfulResult observations c (evaluateCase lowercase c (indexed.lookup c.id)) ↔
      ∀ o ∈ observations, o.caseId = c.id → ∀ response, o.responseText = some response →
        ((∃ sentinel ∈ c.sentinels, Verbatim response sentinel) →
          ∃ sentinel ∈ c.sentinels, mentions lowercase response sentinel = true) ∧
        ((∀ token ∈ c.requiredTokens, Verbatim response token) →
          ∀ token ∈ c.requiredTokens, mentions lowercase response token = true) := by
  have hl {o} (ho : o ∈ observations) (hi : o.caseId = c.id) : indexed.lookup c.id = some o :=
    (indexObservations_lookup h).mpr ⟨ho, hi⟩
  constructor
  case mp =>
    intro hf o ho hi response hr
    constructor
    case left =>
      intro ⟨sentinel, hs, hv⟩
      have hm := (hf.leak ho hi hr hs hv).left
      rw [hl ho hi] at hm
      obtain ⟨response', hr', hm⟩ := leak_mem_evaluateCase.mp hm
      cases hr.symm.trans hr'
      exact hm
    case right =>
      intro hv token ht
      have hm := hf.required ho hi hr hv
      rw [hl ho hi] at hm
      by_contra hn
      exact hm <| missing_mem_evaluateCase.mpr ⟨response, hr, token, ht, by simpa using hn⟩
  case mpr =>
    intro hf
    refine ⟨?caseId, ?leak, ?required, ?unobserved⟩
    case caseId => cases indexed.lookup c.id <;> rfl
    case leak =>
      intro o response sentinel ho hi hr hs hv
      rw [hl ho hi]
      have hm := leak_mem_evaluateCase.mpr ⟨response, hr, (hf o ho hi response hr).left ⟨sentinel, hs, hv⟩⟩
      exact ⟨hm, List.isEmpty_eq_false_iff.mpr (List.ne_nil_of_mem hm)⟩
    case required =>
      intro o response ho hi hr hv hm
      rw [hl ho hi] at hm
      obtain ⟨response', hr', token, ht, hn⟩ := missing_mem_evaluateCase.mp hm
      cases hr.symm.trans hr'
      exact Bool.false_ne_true (hn.symm.trans ((hf o ho hi response hr).right hv token ht))
    case unobserved =>
      intro hn
      cases ho : indexed.lookup c.id
      case none => rfl
      case some o =>
        obtain ⟨ho, hi⟩ := (indexObservations_lookup h).mp ho
        exact absurd hi (hn o ho)

theorem faithful_iff_recognizable {lowercase : String → String}
    (h : evaluateGoldenSuite lowercase suite observations = .ok report) :
    FaithfulReport lowercase suite observations report ↔ Recognizable lowercase suite observations := by
  obtain ⟨hv, indexed, hi, rfl⟩ := evaluateGoldenSuite_eq_ok_iff.mp h
  constructor
  case mp =>
    intro hf c hc
    exact (faithfulResult_iff hi).mp (reportOf_cases_iff.mp hf.cases c hc)
  case mpr =>
    intro hr
    refine ⟨?cases, ?total, ?passed, ?sum, ?permuted⟩
    case cases  => exact reportOf_cases_iff.mpr fun c hc => (faithfulResult_iff hi).mpr (hr c hc)
    case total  => exact List.length_map ..
    case passed => exact List.countP_eq_length_filter.symm
    case sum    => exact Nat.add_sub_cancel' (List.length_filter_le ..)
    case permuted =>
      intro observations' hp
      obtain ⟨indexed', hi', hl⟩ := indexObservations_perm hp hi
      refine evaluateGoldenSuite_eq_ok_iff.mpr ⟨hv, indexed', hi', ?_⟩
      simp only [GoldenSuite.reportOf, hl]

variable {u : CaseTables}

-- The texts that are in the response of a case verbatim stand in it with their capital sigmas mapped as
-- they are alone: one of the sentinels if any of them is in it, all required tokens if all of them are.
def SigmasKept (u : CaseTables) (suite : GoldenSuite) (observations : List GoldenObservation) : Prop :=
  ∀ c ∈ suite.cases, ∀ o ∈ observations, o.caseId = c.id → ∀ response, o.responseText = some response →
    ((∃ sentinel ∈ c.sentinels, Verbatim response sentinel) → ∃ sentinel ∈ c.sentinels, u.Kept response sentinel) ∧
    ((∀ token ∈ c.requiredTokens, Verbatim response token) → ∀ token ∈ c.requiredTokens, u.Kept response token)

-- No letter has two spellings in the response of a case and a text that is looked for in it.
def OneSpelling (u : CaseTables) (suite : GoldenSuite) (observations : List GoldenObservation) : Prop :=
  ∀ c ∈ suite.cases, ∀ o ∈ observations, o.caseId = c.id → ∀ response, o.responseText = some response →
    ∀ token ∈ c.sentinels ++ c.requiredTokens, u.OneSpelling (response.toList ++ token.toList)

theorem SigmasKept.recognizable (h : SigmasKept u suite observations) :
    Recognizable u.toLowercase suite observations := by
  intro c hc o ho hi response hr
  obtain ⟨hs, ht⟩ := h c hc o ho hi response hr
  constructor
  case left =>
    intro hv
    obtain ⟨sentinel, hm, hk⟩ := hs hv
    exact ⟨sentinel, hm, decide_eq_true hk.isInfix⟩
  case right =>
    intro hv token hm
    exact decide_eq_true (ht hv token hm).isInfix

theorem Recognizable.sigmasKept (h : Recognizable u.toLowercase suite observations)
    (hu : OneSpelling u suite observations) : SigmasKept u suite observations := by
  intro c hc o ho hi response hr
  obtain ⟨hs, ht⟩ := h c hc o ho hi response hr
  have hk {token : String} (hm : token ∈ c.sentinels ++ c.requiredTokens)
      (hf : mentions u.toLowercase response token = true) : u.Kept response token :=
    (hu c hc o ho hi response hr token hm).kept (of_decide_eq_true hf)
  constructor
  case left =>
    intro hv
    obtain ⟨sentinel, hm, hf⟩ := hs hv
    exact ⟨sentinel, hm, hk (List.mem_append_left _ hm) hf⟩
  case right =>
    intro hv token hm
    exact hk (List.mem_append_right _ hm) (ht hv token hm)

-- The report is faithful where the sigmas are kept, and nowhere else as long as what is looked for cannot
-- be found by another spelling.
theorem evaluateGoldenSuite_faithful (h : evaluateGoldenSuite u.toLowercase suite observations = .ok report) :
    (SigmasKept u suite observations → FaithfulReport u.toLowercase suite observations report) ∧
    (OneSpelling u suite observations → FaithfulReport u.toLowercase suite observations report →
      SigmasKept u suite observations) := by
  constructor
  case left =>
    intro hk
    exact (faithful_iff_recognizable h).mpr hk.recognizable
  case right =>
    intro hu hf
    exact ((faithful_iff_recognizable h).mp hf).sigmasKept hu

-- The Greek letters without accents, and letters that have no case.
def greekTables : CaseTables where
  lower c         := if 'Α' ≤ c ∧ c ≤ 'Ω' then [.ofNat (c.toNat + 32)] else [c]
  cased c         := 'Α' ≤ c ∧ c ≤ 'ω'
  caseIgnorable _ := false

def streetSuite (sentinel : String) : GoldenSuite where
  schemaVersion := rt0GoldenSchema
  suiteId       := "street"
  cases         := [⟨"address", .visitor, "?", [.noPrivateSentinels [sentinel]]⟩]

def streetObservation (response : String) : GoldenObservation where
  caseId             := "address"
  responseText       := some response
  ownerAttribution   := none
  reasonCode         := none
  unplayedTailSpoken := none
  personaIdBefore    := none
  personaIdAfter     := none

-- The word ends with its sigma in the response too.
theorem sigmasKept_street : SigmasKept greekTables (streetSuite "ΟΔΟΣ") [streetObservation "Η ΟΔΟΣ ΜΟΥ"] := by
  intro c hc o ho hi response hr
  obtain rfl := List.mem_singleton.mp hc
  obtain rfl := List.mem_singleton.mp ho
  obtain rfl := Option.some.inj hr
  constructor
  case left =>
    intro _
    refine ⟨"ΟΔΟΣ", List.mem_singleton_self _, ['Η', ' '], [' ', 'Μ', 'Ο', 'Υ'], by decide, ?_⟩
    have ht : "ΟΔΟΣ".toList = ['Ο', 'Δ', 'Ο', 'Σ'] := by decide
    simp only [ht, CaseTables.sigmasAgree_cons]
    exact ⟨by decide, by decide, by decide, fun _ => by decide, CaseTables.sigmasAgree_nil⟩
  case right =>
    intro _ token ht
    cases ht

theorem evaluateGoldenSuite_faithful_street :
    evaluateGoldenSuite greekTables.toLowercase (streetSuite "ΟΔΟΣ") [streetObservation "Η ΟΔΟΣ ΜΟΥ"] =
      .ok ⟨rt0GoldenSchema, "street", 1, 0, 1, [⟨"address", false, [.privateContextLeak]⟩]⟩ ∧
    FaithfulReport greekTables.toLowercase (streetSuite "ΟΔΟΣ") [streetObservation "Η ΟΔΟΣ ΜΟΥ"]
      ⟨rt0GoldenSchema, "street", 1, 0, 1, [⟨"address", false, [.privateContextLeak]⟩]⟩ := by
  have h : evaluateGoldenSuite greekTables.toLowercase (streetSuite "ΟΔΟΣ") [streetObservation "Η ΟΔΟΣ ΜΟΥ"] =
      .ok ⟨rt0GoldenSchema, "street", 1, 0, 1, [⟨"address", false, [.privateContextLeak]⟩]⟩ := by decide +kernel
  exact ⟨h, (evaluateGoldenSuite_faithful h).left sigmasKept_street⟩

-- The sentinel ends with a final sigma, which is not final in the response.
theorem evaluateGoldenSuite_leak : ¬ ∀ (u : CaseTables) suite observations report,
    evaluateGoldenSuite u.toLowercase suite observations = .ok report →
      FaithfulReport u.toLowercase suite observations report := by
  intro h
  have hs : evaluateGoldenSuite greekTables.toLowercase (streetSuite "ΟΔΟΣ") [streetObservation "ΟΔΟΣΑ"] =
      .ok ⟨rt0GoldenSchema, "street", 1, 1, 0, [⟨"address", true, []⟩]⟩ := by decide +kernel
  have hf := h _ _ _ _ hs
  cases hf.cases
  case cons hr _ =>
    have hv : Verbatim "ΟΔΟΣΑ" "ΟΔΟΣ" := ⟨[], ['Α'], by decide⟩
    cases (hr.leak (List.mem_singleton_self _) rfl rfl (List.mem_singleton_self _) hv).left

end Evaluate
