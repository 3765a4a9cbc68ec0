import Mathlib.Data.List.Infix
import PersonaRuntime.Domain.Profile
import PersonaRuntime.Text.JsonCodec

def rt0GoldenSchema : String :=
  "rt0-golden-0.1"

-- A claim that `try_from` takes for a verified opinion of the owner.
structure VerifiedOwnerOpinion where
  claim        : OwnerClaim
  kind         : claim.kind = .opinion
  source       : claim.source = .owner
  verification : claim.verification = .ownerVerified
  derivation   : claim.derivation = .direct

inductive AttributionError
  | notOpinion
  | notOwnerSource
  | notOwnerVerified
  | notDirectOwnerEvidence
deriving DecidableEq, Repr

def VerifiedOwnerOpinion.tryFrom (claim : OwnerClaim) : Except AttributionError VerifiedOwnerOpinion :=
  if hk : claim.kind = .opinion then
    if hs : claim.source = .owner then
      if hv : claim.verification = .ownerVerified then
        if hd : claim.derivation = .direct then .ok ⟨claim, hk, hs, hv, hd⟩
        else .error .notDirectOwnerEvidence
      else .error .notOwnerVerified
    else .error .notOwnerSource
  else .error .notOpinion

inductive GoldenActor
  | owner
  | visitor
deriving DecidableEq, Repr

inductive GoldenExpectation
  | responseContainsAll (tokens : List String)
  | ownerAttribution (eligible : Bool)
  | noPrivateSentinels (sentinels : List String)
  | reasonCode (code : String)
  | unplayedTailNotSpoken
  | personaIdentityStable
deriving DecidableEq, Repr

structure GoldenCase where
  id           : String
  actor        : GoldenActor
  promptRu     : String
  expectations : List GoldenExpectation
deriving DecidableEq, Repr

structure GoldenSuite where
  schemaVersion : String
  suiteId       : String
  cases         : List GoldenCase
deriving DecidableEq, Repr

-- The evidence enumerations have the variants of those of the domain, which they are turned into.
structure AttributionEvidence where
  source       : SourceKind
  verification : VerificationState
  derivation   : DerivationKind
deriving DecidableEq, Repr

structure GoldenObservation where
  caseId             : String
  responseText       : Option String
  ownerAttribution   : Option AttributionEvidence
  reasonCode         : Option String
  unplayedTailSpoken : Option Bool
  personaIdBefore    : Option String
  personaIdAfter     : Option String
deriving DecidableEq, Repr

inductive GoldenFailureCode
  | missingObservation
  | missingResponseText
  | missingRequiredText
  | falseOwnerAttribution
  | requiredOwnerAttributionMissing
  | privateContextLeak
  | missingReasonCode
  | wrongReasonCode
  | missingSpokenCheckpoint
  | cancelledOutputMarkedSpoken
  | missingPersonaIdentityEvidence
  | personaIdentityDrift
deriving DecidableEq, Repr

structure GoldenCaseResult where
  caseId   : String
  passed   : Bool
  failures : List GoldenFailureCode
deriving DecidableEq, Repr

structure GoldenReport where
  schemaVersion : String
  suiteId       : String
  total         : Nat
  passed        : Nat
  failed        : Nat
  cases         : List GoldenCaseResult
deriving DecidableEq, Repr

inductive GoldenSuiteError
  | unsupportedSchemaVersion
  | blankSchemaVersion
  | blankSuiteId
  | emptySuite
  | blankCaseId
  | duplicateCaseId
  | blankPrompt
  | emptyExpectations
  | blankExpectationValue
  | duplicateObservation
  | unknownObservationCase
deriving DecidableEq, Repr

def GoldenExpectation.isValid : GoldenExpectation → Bool
  | responseContainsAll tokens   => !tokens.isEmpty && tokens.all (!isBlank ·)
  | noPrivateSentinels sentinels => !sentinels.isEmpty && sentinels.all (!isBlank ·)
  | reasonCode code              => !isBlank code
  | ownerAttribution _           => true
  | unplayedTailNotSpoken        => true
  | personaIdentityStable        => true

def GoldenCase.validate (c : GoldenCase) (ids : List String) : Except GoldenSuiteError (List String) :=
  if isBlank c.id then
    .error .blankCaseId
  else if c.id ∈ ids then
    .error .duplicateCaseId
  else if isBlank c.promptRu then
    .error .blankPrompt
  else if c.expectations.isEmpty then
    .error .emptyExpectations
  else if c.expectations.all (·.isValid) then
    .ok (c.id :: ids)
  else
    .error .blankExpectationValue

def GoldenSuite.validate (suite : GoldenSuite) : Except GoldenSuiteError (List String) :=
  if isBlank suite.schemaVersion then
    .error .blankSchemaVersion
  else if suite.schemaVersion ≠ rt0GoldenSchema then
    .error .unsupportedSchemaVersion
  else if isBlank suite.suiteId then
    .error .blankSuiteId
  else if suite.cases.isEmpty then
    .error .emptySuite
  else
    suite.cases.foldlM (fun ids c => c.validate ids) []

-- The observations by the case they are of
def indexObservations (suite : GoldenSuite) (observations : List GoldenObservation) :
    Except GoldenSuiteError (List (String × GoldenObservation)) :=
  observations.foldlM (fun indexed o =>
    if o.caseId ∉ suite.cases.map (·.id) then .error .unknownObservationCase
    else if (indexed.lookup o.caseId).isSome then .error .duplicateObservation
    else .ok ((o.caseId, o) :: indexed)) []

def evaluateAttribution (expected : Bool) : Option AttributionEvidence → List GoldenFailureCode
  | none          => if expected then [.requiredOwnerAttributionMissing] else []
  | some evidence =>
    let eligible := (VerifiedOwnerOpinion.tryFrom {
      statement    := "<evaluation-redacted>"
      kind         := .opinion
      source       := evidence.source
      verification := evidence.verification
      derivation   := evidence.derivation }).isOk
    if eligible = expected then []
    else if expected then [.requiredOwnerAttributionMissing]
    else [.falseOwnerAttribution]

section Evaluate

-- `str::to_lowercase`
variable (lowercase : String → String)

-- `response.to_lowercase().contains(&token.to_lowercase())`
def mentions (response token : String) : Bool :=
  (lowercase token).toList <:+: (lowercase response).toList

def evaluateExpectation (o : GoldenObservation) : GoldenExpectation → List GoldenFailureCode
  | .responseContainsAll tokens =>
    match o.responseText with
    | none          => [.missingResponseText]
    | some response => if tokens.any (!mentions lowercase response ·) then [.missingRequiredText] else []
  | .ownerAttribution eligible => evaluateAttribution eligible o.ownerAttribution
  | .noPrivateSentinels sentinels =>
    match o.responseText with
    | none          => [.missingResponseText]
    | some response => if sentinels.any (mentions lowercase response) then [.privateContextLeak] else []
  | .reasonCode code =>
    match o.reasonCode with
    | none        => [.missingReasonCode]
    | some actual => if actual ≠ code then [.wrongReasonCode] else []
  | .unplayedTailNotSpoken =>
    match o.unplayedTailSpoken with
    | none       => [.missingSpokenCheckpoint]
    | some true  => [.cancelledOutputMarkedSpoken]
    | some false => []
  | .personaIdentityStable =>
    match o.personaIdBefore, o.personaIdAfter with
    | some before, some after => if before = after then [] else [.personaIdentityDrift]
    | _, _                    => [.missingPersonaIdentityEvidence]

def evaluateCase (c : GoldenCase) : Option GoldenObservation → GoldenCaseResult
  | none   => ⟨c.id, false, [.missingObservation]⟩
  | some o =>
    let failures := c.expectations.flatMap (evaluateExpectation lowercase o)
    ⟨c.id, failures.isEmpty, failures⟩

def evaluateGoldenSuite (suite : GoldenSuite) (observations : List GoldenObservation) :
    Except GoldenSuiteError GoldenReport := do
  let _ ← suite.validate
  let observations ← indexObservations suite observations
  let cases := suite.cases.map fun c => evaluateCase lowercase c (observations.lookup c.id)
  let passed := (cases.filter (·.passed)).length
  return {
    schemaVersion := suite.schemaVersion
    suiteId       := suite.suiteId
    total         := cases.length
    passed        := passed
    failed        := cases.length - passed
    cases         := cases }

end Evaluate

-- The derived readers.

def SourceKind.jsonName : SourceKind → String
  | owner    => "owner"
  | user     => "user"
  | document => "document"
  | web      => "web"
  | tool     => "tool"
  | model    => "model"

def VerificationState.jsonName : VerificationState → String
  | unverified     => "unverified"
  | corroborated   => "corroborated"
  | ownerVerified  => "owner_verified"
  | sourceVerified => "source_verified"
  | disputed       => "disputed"

def DerivationKind.jsonName : DerivationKind → String
  | direct     => "direct"
  | remembered => "remembered"
  | inferred   => "inferred"
  | summarized => "summarized"
  | simulated  => "simulated"

def GoldenActor.jsonName : GoldenActor → String
  | owner   => "owner"
  | visitor => "visitor"

def GoldenFailureCode.jsonName : GoldenFailureCode → String
  | missingObservation              => "MISSING_OBSERVATION"
  | missingResponseText             => "MISSING_RESPONSE_TEXT"
  | missingRequiredText             => "MISSING_REQUIRED_TEXT"
  | falseOwnerAttribution           => "FALSE_OWNER_ATTRIBUTION"
  | requiredOwnerAttributionMissing => "REQUIRED_OWNER_ATTRIBUTION_MISSING"
  | privateContextLeak              => "PRIVATE_CONTEXT_LEAK"
  | missingReasonCode               => "MISSING_REASON_CODE"
  | wrongReasonCode                 => "WRONG_REASON_CODE"
  | missingSpokenCheckpoint         => "MISSING_SPOKEN_CHECKPOINT"
  | cancelledOutputMarkedSpoken     => "CANCELLED_OUTPUT_MARKED_SPOKEN"
  | missingPersonaIdentityEvidence  => "MISSING_PERSONA_IDENTITY_EVIDENCE"
  | personaIdentityDrift            => "PERSONA_IDENTITY_DRIFT"

def SourceKind.json : JsonCodec SourceKind :=
  .variant [.owner, .user, .document, .web, .tool, .model] (·.jsonName)

def VerificationState.json : JsonCodec VerificationState :=
  .variant [.unverified, .corroborated, .ownerVerified, .sourceVerified, .disputed] (·.jsonName)

def DerivationKind.json : JsonCodec DerivationKind :=
  .variant [.direct, .remembered, .inferred, .summarized, .simulated] (·.jsonName)

def GoldenActor.json : JsonCodec GoldenActor :=
  .variant [.owner, .visitor] (·.jsonName)

def GoldenFailureCode.json : JsonCodec GoldenFailureCode :=
  .variant [.missingObservation, .missingResponseText, .missingRequiredText, .falseOwnerAttribution,
    .requiredOwnerAttributionMissing, .privateContextLeak, .missingReasonCode, .wrongReasonCode,
    .missingSpokenCheckpoint, .cancelledOutputMarkedSpoken, .missingPersonaIdentityEvidence,
    .personaIdentityDrift] (·.jsonName)

def AttributionEvidence.decode (j : Json) : Option AttributionEvidence := do
  let f ← JsonFields.ofRecord ["source", "verification", "derivation"] j
  return {
    source       := ← f.required "source" SourceKind.json.decode
    verification := ← f.required "verification" VerificationState.json.decode
    derivation   := ← f.required "derivation" DerivationKind.json.decode }

-- What a variant without data reads: it skips the members of an object, and an array has to be at its end.
def GoldenExpectation.ofUnit (content : Json) (e : GoldenExpectation) : Option GoldenExpectation :=
  match content with
  | .array []  => some e
  | .object _  => some e
  | _          => none

-- The rest of an expectation next to its `kind`.
def GoldenExpectation.ofContent (content : Json) : Json → Option GoldenExpectation
  | .string "response_contains_all" => do
    let f ← JsonFields.ofRecord ["tokens"] content
    return .responseContainsAll (← f.required "tokens" JsonCodec.text.list.decode)
  | .string "owner_attribution" => do
    let f ← JsonFields.ofRecord ["eligible"] content
    return .ownerAttribution (← f.required "eligible" JsonCodec.flag.decode)
  | .string "no_private_sentinels" => do
    let f ← JsonFields.ofRecord ["sentinels"] content
    return .noPrivateSentinels (← f.required "sentinels" JsonCodec.text.list.decode)
  | .string "reason_code" => do
    let f ← JsonFields.ofRecord ["code"] content
    return .reasonCode (← f.required "code" JsonCodec.text.decode)
  | .string "unplayed_tail_not_spoken" => ofUnit content .unplayedTailNotSpoken
  | .string "persona_identity_stable" => ofUnit content .personaIdentityStable
  | _ => none

def GoldenExpectation.decode : Json → Option GoldenExpectation
  | .object members =>
    match members.filter (·.1 = "kind") with
    | [(_, kind)] => ofContent (.object (members.filter (·.1 ≠ "kind"))) kind
    | _           => none
  | .array (kind :: items) => ofContent (.array items) kind
  | _ => none

def GoldenCase.decode (j : Json) : Option GoldenCase := do
  let f ← JsonFields.ofRecord ["id", "actor", "prompt_ru", "expectations"] j
  return {
    id           := ← f.required "id" JsonCodec.text.decode
    actor        := ← f.required "actor" GoldenActor.json.decode
    promptRu     := ← f.required "prompt_ru" JsonCodec.text.decode
    expectations := ← f.required "expectations" (Json.decodeList GoldenExpectation.decode) }

def GoldenSuite.decode (j : Json) : Option GoldenSuite := do
  let f ← JsonFields.ofRecord ["schema_version", "suite_id", "cases"] j
  return {
    schemaVersion := ← f.required "schema_version" JsonCodec.text.decode
    suiteId       := ← f.required "suite_id" JsonCodec.text.decode
    cases         := ← f.required "cases" (Json.decodeList GoldenCase.decode) }

def GoldenObservation.decode (j : Json) : Option GoldenObservation := do
  let f ← JsonFields.ofRecord ["case_id", "response_text", "owner_attribution", "reason_code",
    "unplayed_tail_spoken", "persona_id_before", "persona_id_after"] j
  return {
    caseId             := ← f.required "case_id" JsonCodec.text.decode
    responseText       := ← f.optional "response_text" JsonCodec.text.decode
    ownerAttribution   := ← f.optional "owner_attribution" AttributionEvidence.decode
    reasonCode         := ← f.optional "reason_code" JsonCodec.text.decode
    unplayedTailSpoken := ← f.optional "unplayed_tail_spoken" JsonCodec.flag.decode
    personaIdBefore    := ← f.optional "persona_id_before" JsonCodec.text.decode
    personaIdAfter     := ← f.optional "persona_id_after" JsonCodec.text.decode }

def GoldenCaseResult.decode (j : Json) : Option GoldenCaseResult := do
  let f ← JsonFields.ofRecord ["case_id", "passed", "failures"] j
  return {
    caseId   := ← f.required "case_id" JsonCodec.text.decode
    passed   := ← f.required "passed" JsonCodec.flag.decode
    failures := ← f.required "failures" GoldenFailureCode.json.list.decode }

-- `usize` has 64 bits.
def usize : JsonCodec { n : Nat // n ≤ u64Max } :=
  .unsigned u64Max

def GoldenReport.decode (j : Json) : Option GoldenReport := do
  let f ← JsonFields.ofRecord ["schema_version", "suite_id", "total", "passed", "failed", "cases"] j
  return {
    schemaVersion := ← f.required "schema_version" JsonCodec.text.decode
    suiteId       := ← f.required "suite_id" JsonCodec.text.decode
    total         := (← f.required "total" usize.decode).val
    passed        := (← f.required "passed" usize.decode).val
    failed        := (← f.required "failed" usize.decode).val
    cases         := ← f.required "cases" (Json.decodeList GoldenCaseResult.decode) }
