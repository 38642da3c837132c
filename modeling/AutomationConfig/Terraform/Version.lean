import AutomationConfig.Text.Letter

/-! # Versions of Terraform

A version is three numbers with dots between them. -/

namespace AutomationConfig

/-- Whether a text is made of three numbers with dots between them. -/
def isVersion (s : String) : Bool :=
  match s.toList.splitOn '.' with
  | [major, minor, patch] =>
    [major, minor, patch].all fun n => !n.isEmpty && n.all Text.isDecimalDigit
  | _ => false

end AutomationConfig
