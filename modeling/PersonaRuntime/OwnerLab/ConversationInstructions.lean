import PersonaRuntime.OwnerLab.OwnerContext
import PersonaRuntime.Text.Trim

-- `claim_kind_label`
def ClaimKind.label : ClaimKind → String
  | factual       => "verified_owner_fact"
  | opinion       => "verified_owner_opinion"
  | preference    => "verified_owner_preference"
  | prediction    => "verified_owner_prediction"
  | valueJudgment => "verified_owner_value_judgment"

namespace ReviewedOwnerContext

end ReviewedOwnerContext
