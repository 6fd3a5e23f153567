namespace FrontendAtlas.Contract

inductive Severity where
  | fail
  | warn
  | info
  deriving DecidableEq

namespace Severity

def name : Severity → String
  | .fail => "FAIL"
  | .warn => "WARN"
  | .info => "INFO"

def ofName? : String → Option Severity
  | "FAIL" => some .fail
  | "WARN" => some .warn
  | "INFO" => some .info
  | _ => none

def sign : Severity → String
  | .fail => "✗"
  | .warn => "⚠"
  | .info => "ℹ"

def rank : Severity → Nat
  | .fail => 0
  | .warn => 1
  | .info => 2

def worse (a b : Severity) : Severity :=
  if a.rank ≤ b.rank then a else b

end Severity

structure Violation where
  severity : Severity
  checkId : String
  subject : String
  message : String
  deriving DecidableEq

def Violation.text (violation : Violation) : String :=
  violation.severity.sign ++ " " ++ violation.subject ++ ": " ++ violation.message

end FrontendAtlas.Contract
