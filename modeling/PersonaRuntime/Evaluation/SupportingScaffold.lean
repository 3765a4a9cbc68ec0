import PersonaRuntime.Text.Json

-- What a file is laid out as before anything was recorded: a JSON value as its tree, which has the members
-- of a `json!` in the order of their keys, or a text.
inductive ScaffoldFile
  | json (value : Json)
  | text (content : String)

namespace Rt0Scaffold

-- The values that the scaffolds are made of

def text (s : String) : Json :=
  .string s

def zero : Json :=
  .number (.posInt 0)

variable (candidateSha providerStateSha256 : String)

def conversation (role : String) : Json :=
  .object [("candidate_sha", text candidateSha), ("completed_turns", zero), ("interruption_exercised", text "failed"),
    ("origin", text "synthetic"), ("provider_state_sha256", text providerStateSha256), ("role", text role),
    ("russian", text "failed"), ("video", text "failed"), ("voice", text "failed")]

def latency : Json :=
  .object [("p50", zero), ("p95", zero), ("samples", .number (.posInt 1))]

def quality : Json :=
  .object [("av_sync_absolute_offset", latency), ("candidate_sha", text candidateSha),
    ("first_meaningful_audio", latency), ("first_useful_video", latency), ("interruption_stop", latency),
    ("origin", text "synthetic"), ("provider_state_sha256", text providerStateSha256),
    ("recoverable_reconnect", latency), ("text_first_meaningful_response", latency)]

def acceptance : Json :=
  .object [("candidate_sha", text candidateSha), ("correction_path", text "failed"),
    ("failure_recovery_path", text "failed"), ("origin", text "synthetic"), ("owner_happy_path", text "failed"),
    ("provider_state_sha256", text providerStateSha256), ("revoke_deny_path", text "failed"),
    ("visitor_happy_path", text "failed")]

def cost : Json :=
  .object [("candidate_sha", text candidateSha), ("estimated_cost_covered_provider_roles", .array []),
    ("estimated_cost_microunits", .null), ("measured_duration_millis", zero), ("origin", text "synthetic"),
    ("provider_charge_covered_provider_roles", .array []), ("provider_charge_microunits", .null),
    ("provider_state_sha256", text providerStateSha256)]

def privacyPermissions : Json :=
  .object [("accepted_false_owner_attribution", zero), ("accepted_private_context_leakage", zero),
    ("candidate_sha", text candidateSha), ("egress_denial", text "failed"), ("origin", text "synthetic"),
    ("permission_suite", text "failed"), ("provider_state_sha256", text providerStateSha256),
    ("revocation", text "failed")]

def humanEvaluation : Json :=
  .object [("candidate_sha", text candidateSha),
    ("dimensions", .object [("appearance_plausibility", text "missing"), ("conversation_naturalness", text "missing"),
      ("persona_similarity", text "missing"), ("voice_naturalness", text "missing"),
      ("voice_similarity", text "missing")]),
    ("origin", text "synthetic"), ("owner_human_participant_verified", text "failed"),
    ("provider_state_sha256", text providerStateSha256), ("reviewer_count", zero),
    ("rubric_version", text "UNREVIEWED"), ("usable_for_continuation", text "failed"),
    ("visitor_distinct_non_owner_human_verified", text "failed")]

def knownLimitations : String :=
  "RT0-Review-Status: failed\n\n" ++
    "Scaffold only. Replace this text with the reviewed known limitations for the exact candidate before any " ++
    "exit-gate attempt.\n"

end Rt0Scaffold

def rt0RuntimeSupportingScaffold (candidateSha providerStateSha256 : String) : List (String × ScaffoldFile) := [
  ("owner-conversation.json", .json (Rt0Scaffold.conversation candidateSha providerStateSha256 "owner")),
  ("visitor-conversation.json", .json (Rt0Scaffold.conversation candidateSha providerStateSha256 "visitor")),
  ("quality.json", .json (Rt0Scaffold.quality candidateSha providerStateSha256))]

def rt0ManualSupportingScaffold (candidateSha providerStateSha256 : String) : List (String × ScaffoldFile) := [
  ("acceptance.json", .json (Rt0Scaffold.acceptance candidateSha providerStateSha256)),
  ("cost.json", .json (Rt0Scaffold.cost candidateSha providerStateSha256)),
  ("privacy-permissions.json", .json (Rt0Scaffold.privacyPermissions candidateSha providerStateSha256)),
  ("human-evaluation.json", .json (Rt0Scaffold.humanEvaluation candidateSha providerStateSha256)),
  ("known-limitations.md", .text Rt0Scaffold.knownLimitations)]
