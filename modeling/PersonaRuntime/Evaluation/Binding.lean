import PersonaRuntime.Evaluation.Golden
import PersonaRuntime.Evaluation.SessionEvidence

def rt0EvidenceBindingSchema : String :=
  "rt0-evidence-binding-0.1"

def rt0ProviderStateSchema : String :=
  "rt0-provider-state-0.2"

def EvidenceBinding.validSha256 (value : String) : Bool :=
  value.utf8ByteSize = 64 && value.toList.all isLowerHex

-- What the validators of artifacts rest on: the trees of JSON texts, the digest of bytes and of the text
-- that a snapshot is written as, and the lower-case form of a text.
structure ArtifactFormat where
  parse          : List UInt8 → Option Json
  sha256Hex      : List UInt8 → String
  hex            : ∀ bytes, EvidenceBinding.validSha256 (sha256Hex bytes) = true
  snapshotSha256 : SnapshotDigest
  lowercase      : String → String

inductive ProviderRole
  | stt
  | llm
  | avatar
  | tts
deriving DecidableEq, Repr

structure ProviderStateBinding where
  role                           : ProviderRole
  provider                       : String
  modelOrRepresentation          : String
  configurationFingerprintSha256 : String
  voiceProfileStatus             : Option String
  profileId                      : Option String
  version                        : Option Nat
deriving DecidableEq, Repr

structure ProviderStateManifest where
  schemaVersion : String
  providers     : List ProviderStateBinding
deriving DecidableEq, Repr

structure EvidenceBinding where
  schemaVersion       : String
  candidateSha        : String
  releaseSpecSha256   : String
  suiteSha256         : String
  providerStateSha256 : String
deriving DecidableEq, Repr

structure GoldenEvidenceBundle where
  binding      : EvidenceBinding
  observations : List GoldenObservation
deriving DecidableEq, Repr

structure BoundGoldenReport where
  evidenceInputSha256 : String
  binding             : EvidenceBinding
  providerState       : ProviderStateManifest
  golden              : GoldenReport
deriving DecidableEq, Repr

structure EvidenceVerificationContext where
  suiteBytes         : List UInt8
  releaseSpecBytes   : List UInt8
  providerState      : ProviderStateManifest
  providerStateBytes : List UInt8
  evidenceBytes      : List UInt8
  exactCandidateSha  : String

inductive EvidenceBindingError
  | unsupportedBindingSchema
  | unsupportedProviderStateSchema
  | invalidCandidateSha
  | invalidDigest
  | candidateShaMismatch
  | suiteDigestMismatch
  | releaseSpecDigestMismatch
  | providerStateDigestMismatch
  | missingProviderRole
  | duplicateProviderRole
  | blankProviderDescriptor
  | invalidProviderFingerprint
  | goldenSuiteInvalid
deriving DecidableEq, Repr

def validateCandidateSha (value : String) : Except EvidenceBindingError Unit :=
  if validGitSha value then .ok () else .error .invalidCandidateSha

def validProfileId (id : String) : Bool :=
  3 ≤ id.utf8ByteSize && id.utf8ByteSize ≤ 64 && id.toList.all fun c => c.isLower || c.isDigit || c = '-'

-- The voice profile a provider of the role has to state. Only one that speaks has any.
def ProviderStateBinding.validVoice (provider : ProviderStateBinding) : Bool :=
  if provider.role = .tts then
    (provider.voiceProfileStatus = some "INTERIM" || provider.voiceProfileStatus = some "ACCEPTED") &&
      provider.profileId.any validProfileId && provider.version.any (· ≠ 0)
  else
    provider.voiceProfileStatus.isNone && provider.profileId.isNone && provider.version.isNone

def validateProvider (roles : List ProviderRole) (provider : ProviderStateBinding) :
    Except EvidenceBindingError (List ProviderRole) :=
  if provider.role ∈ roles then
    .error .duplicateProviderRole
  else if isBlank provider.provider ∨ isBlank provider.modelOrRepresentation then
    .error .blankProviderDescriptor
  else if !EvidenceBinding.validSha256 provider.configurationFingerprintSha256 then
    .error .invalidProviderFingerprint
  else if !provider.validVoice then
    .error .blankProviderDescriptor
  else
    .ok (provider.role :: roles)

def validateProviderState (providers : List ProviderStateBinding) : Except EvidenceBindingError Unit := do
  let roles ← providers.foldlM validateProvider []
  if .stt ∈ roles ∧ .llm ∈ roles ∧ .avatar ∈ roles then .ok () else .error .missingProviderRole

def validateProviderStateManifest (providerState : ProviderStateManifest) : Except EvidenceBindingError Unit :=
  if providerState.schemaVersion ≠ rt0ProviderStateSchema then
    .error .unsupportedProviderStateSchema
  else
    validateProviderState providerState.providers

namespace ArtifactFormat

variable (F : ArtifactFormat)

-- `serde_json::from_slice`
def fromSlice {α : Type} (decode : Json → Option α) (bytes : List UInt8) : Option α :=
  (F.parse bytes).bind decode

def validateBinding (binding : EvidenceBinding) (context : EvidenceVerificationContext) :
    Except EvidenceBindingError Unit := do
  if binding.schemaVersion ≠ rt0EvidenceBindingSchema then
    .error .unsupportedBindingSchema
  validateProviderStateManifest context.providerState
  validateCandidateSha context.exactCandidateSha
  validateCandidateSha binding.candidateSha
  if !([binding.releaseSpecSha256, binding.suiteSha256, binding.providerStateSha256].all EvidenceBinding.validSha256) then
    .error .invalidDigest
  if binding.candidateSha ≠ context.exactCandidateSha then
    .error .candidateShaMismatch
  if binding.suiteSha256 ≠ F.sha256Hex context.suiteBytes then
    .error .suiteDigestMismatch
  if binding.releaseSpecSha256 ≠ F.sha256Hex context.releaseSpecBytes then
    .error .releaseSpecDigestMismatch
  if binding.providerStateSha256 ≠ F.sha256Hex context.providerStateBytes then
    .error .providerStateDigestMismatch
  validateProviderState context.providerState.providers

def evaluateBoundGoldenSuite (suite : GoldenSuite) (bundle : GoldenEvidenceBundle)
    (context : EvidenceVerificationContext) : Except EvidenceBindingError BoundGoldenReport := do
  F.validateBinding bundle.binding context
  let golden ← (evaluateGoldenSuite F.lowercase suite bundle.observations).mapError fun _ => .goldenSuiteInvalid
  return {
    evidenceInputSha256 := F.sha256Hex context.evidenceBytes
    binding             := bundle.binding
    providerState       := context.providerState
    golden              := golden }

end ArtifactFormat

inductive OwnerGoldenError
  | suiteNotOwnerSpecific
  | reportMismatch
  | binding (error : EvidenceBindingError)
deriving DecidableEq, Repr

-- A case of the owner with an expectation of the kind
def GoldenSuite.ownerExpects (suite : GoldenSuite) (kind : GoldenExpectation → Bool) : Bool :=
  suite.cases.any fun c => c.actor = .owner && c.expectations.any kind

def GoldenExpectation.probesFidelity : GoldenExpectation → Bool
  | responseContainsAll tokens => !tokens.isEmpty
  | _                          => false

def GoldenExpectation.probesAttribution : GoldenExpectation → Bool
  | ownerAttribution eligible => eligible
  | _                         => false

def validateOwnerSuite (suite : GoldenSuite) : Except OwnerGoldenError Unit :=
  if !("rt0.owner.".toList.isPrefixOf suite.suiteId.toList) ∨ suite.cases.length < 3 ∨
      !suite.cases.any (·.actor = .owner) then
    .error .suiteNotOwnerSpecific
  else if !suite.ownerExpects (·.probesFidelity) ∨ !suite.ownerExpects (·.probesAttribution) then
    .error .suiteNotOwnerSpecific
  else
    .ok ()

def ArtifactFormat.evaluateBoundOwnerGoldenSuite (F : ArtifactFormat) (suite : GoldenSuite)
    (bundle : GoldenEvidenceBundle) (context : EvidenceVerificationContext) :
    Except OwnerGoldenError BoundGoldenReport := do
  validateOwnerSuite suite
  (F.evaluateBoundGoldenSuite suite bundle context).mapError .binding

-- The derived readers.

def u32 : JsonCodec { n : Nat // n ≤ u32Max } :=
  .unsigned u32Max

def u64 : JsonCodec { n : Nat // n ≤ u64Max } :=
  .unsigned u64Max

def ProviderRole.jsonName : ProviderRole → String
  | stt    => "stt"
  | llm    => "llm"
  | avatar => "avatar"
  | tts    => "tts"

def ProviderRole.json : JsonCodec ProviderRole :=
  .variant [.stt, .llm, .avatar, .tts] (·.jsonName)

def ProviderStateBinding.decode (j : Json) : Option ProviderStateBinding := do
  let f ← JsonFields.ofRecord ["role", "provider", "model_or_representation", "configuration_fingerprint_sha256",
    "voice_profile_status", "profile_id", "version"] j
  return {
    role                           := ← f.required "role" ProviderRole.json.decode
    provider                       := ← f.required "provider" JsonCodec.text.decode
    modelOrRepresentation          := ← f.required "model_or_representation" JsonCodec.text.decode
    configurationFingerprintSha256 := ← f.required "configuration_fingerprint_sha256" JsonCodec.text.decode
    voiceProfileStatus             := ← f.defaulted "voice_profile_status" JsonCodec.text.nullable.decode none
    profileId                      := ← f.defaulted "profile_id" JsonCodec.text.nullable.decode none
    version                        := (← f.defaulted "version" u32.nullable.decode none).map (·.val) }

def ProviderStateManifest.decode (j : Json) : Option ProviderStateManifest := do
  let f ← JsonFields.ofRecord ["schema_version", "providers"] j
  return {
    schemaVersion := ← f.required "schema_version" JsonCodec.text.decode
    providers     := ← f.required "providers" (Json.decodeList ProviderStateBinding.decode) }

def EvidenceBinding.decode (j : Json) : Option EvidenceBinding := do
  let f ← JsonFields.ofRecord ["schema_version", "candidate_sha", "release_spec_sha256", "suite_sha256",
    "provider_state_sha256"] j
  return {
    schemaVersion       := ← f.required "schema_version" JsonCodec.text.decode
    candidateSha        := ← f.required "candidate_sha" JsonCodec.text.decode
    releaseSpecSha256   := ← f.required "release_spec_sha256" JsonCodec.text.decode
    suiteSha256         := ← f.required "suite_sha256" JsonCodec.text.decode
    providerStateSha256 := ← f.required "provider_state_sha256" JsonCodec.text.decode }

def GoldenEvidenceBundle.decode (j : Json) : Option GoldenEvidenceBundle := do
  let f ← JsonFields.ofRecord ["binding", "observations"] j
  return {
    binding      := ← f.required "binding" EvidenceBinding.decode
    observations := ← f.required "observations" (Json.decodeList GoldenObservation.decode) }

def BoundGoldenReport.decode (j : Json) : Option BoundGoldenReport := do
  let f ← JsonFields.ofRecord ["evidence_input_sha256", "binding", "provider_state", "golden"] j
  return {
    evidenceInputSha256 := ← f.required "evidence_input_sha256" JsonCodec.text.decode
    binding             := ← f.required "binding" EvidenceBinding.decode
    providerState       := ← f.required "provider_state" ProviderStateManifest.decode
    golden              := ← f.required "golden" GoldenReport.decode }
