import FrontendAtlas.Contract.Check

namespace FrontendAtlas.Contract

open FrontendAtlas.Json

structure CheckSummary where
  id : String
  title : String
  deriving DecidableEq

namespace CheckSummary

def json (check : CheckSummary) : Value :=
  .object [("id", .string check.id), ("title", .string check.title)]

def shape : Shape CheckSummary :=
  CheckSummary.mk <$> .field "id" Decode.text <*> .field "title" Decode.text

end CheckSummary

namespace Violation

def json (violation : Violation) : Value :=
  .object [
    ("severity", .string violation.severity.name),
    ("check_id", .string violation.checkId),
    ("subject", .string violation.subject),
    ("message", .string violation.message)]

def shape : Shape Violation :=
  Violation.mk
    <$> .field "severity" (Decode.word Severity.ofName?)
    <*> .field "check_id" Decode.text
    <*> .field "subject" Decode.text
    <*> .field "message" Decode.text

end Violation

structure Report where
  checks : List CheckSummary
  violations : List Violation
  deriving DecidableEq

namespace Report

def ofSnapshot (snapshot : Snapshot) (allowed : List String) : Report where
  checks := (Check.all allowed).map fun check => ⟨check.id, check.title⟩
  violations := (Check.all allowed).flatMap fun check => check.run snapshot

def count (report : Report) (severity : Severity) : Nat :=
  report.violations.countP (·.severity == severity)

def passed (report : Report) : Bool :=
  !report.violations.any (·.severity == .fail)

def forCheck (report : Report) (id : String) : List Violation :=
  report.violations.filter (·.checkId == id)

def exitCode (report : Report) : Nat :=
  if report.passed then 0 else 1

def maxListed : Nat := 10

/-- Splits the violations of a section into those listed and the number of those left out; `listed`
are listed already. -/
def listing : (listed : Nat) → List Violation → List Violation × Nat
  | _, [] => ([], 0)
  | listed, violation :: rest =>
    if violation.severity ≠ .fail ∧ maxListed ≤ listed then
      let (shown, hidden) := listing listed rest
      (shown, hidden + 1)
    else
      let (shown, hidden) := listing (listed + 1) rest
      (violation :: shown, hidden)

def worst? : List Violation → Option Severity
  | [] => none
  | violation :: rest => some (rest.foldl (fun worst v => worst.worse v.severity) violation.severity)

def doubleRule : String := String.ofList (List.replicate 70 '=')

def singleRule : String := String.ofList (List.replicate 50 '-')

def findingLines (found : List Violation) : List String :=
  match worst? found with
  | none => ["  ✓ PASS"]
  | some worst =>
    let (shown, hidden) := listing 0 found
    ["  " ++ worst.name ++ " (" ++ toString found.length ++ " findings)"] ++
      shown.map (fun violation => "    " ++ violation.text) ++
      if hidden = 0 then [] else ["    ... and " ++ toString hidden ++ " more"]

def sectionLines (report : Report) (number : Nat) (check : CheckSummary) : List String :=
  ["", "Check " ++ toString number ++ ": " ++ check.title, singleRule] ++
    findingLines (report.forCheck check.id)

def sectionsFrom (report : Report) : (number : Nat) → List CheckSummary → List String
  | _, [] => []
  | number, check :: rest => report.sectionLines number check ++ report.sectionsFrom (number + 1) rest

def countLine (label : String) (count : Nat) : List String :=
  if count = 0 then [] else ["  " ++ label ++ ": " ++ toString count]

def summaryLines (report : Report) (passed : Bool) : List String :=
  ["", doubleRule, "SUMMARY", doubleRule] ++
    (if passed then ["✓ VERIFICATION PASSED"]
     else ["✗ VERIFICATION FAILED", "  Blocking violations: " ++ toString (report.count .fail)]) ++
    countLine "Warnings" (report.count .warn) ++ countLine "Info" (report.count .info)

def linesStating (report : Report) (passed : Bool) : List String :=
  [doubleRule, "CONTRACT VERIFICATION", doubleRule] ++ report.sectionsFrom 1 report.checks ++
    report.summaryLines passed

def textStating (report : Report) (passed : Bool) : String :=
  String.join ((report.linesStating passed).map (· ++ "\n"))

def text (report : Report) : String :=
  report.textStating report.passed

def json (report : Report) : Value :=
  .object [
    ("passed", .bool report.passed),
    ("checks", .array (report.checks.map (·.json))),
    ("violations", .array (report.violations.map (·.json)))]

end Report

end FrontendAtlas.Contract
