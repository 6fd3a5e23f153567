import FrontendAtlas.Command.Invocation

namespace FrontendAtlas.Command.Refusal

def usage : List String := [
  "Frontend structure graph and architectural contract checks",
  "",
  "Usage: strata [OPTIONS] <COMMAND>",
  "",
  "Commands:",
  "  generate [--source-root <PATH>] [--output-dir <PATH>]",
  "           Scan the frontend source tree and write frontend-graph.json",
  "  verify   [SNAPSHOT] [--json] [--strict]",
  "           Verify architectural contracts against a graph snapshot",
  "  stats    [SNAPSHOT]",
  "           Show node and edge counts of a snapshot",
  "",
  "Options:",
  "  -r, --root <ROOT>  Project root directory (default: current directory)",
  "  -v, --verbose...   More log output (-v info, -vv debug)",
  "  -h, --help         Print help"]

def reason : Refusal → String
  | .helpAsked => "help was asked for"
  | .nothingGiven | .commandMissing => "a command is required"
  | .commandUnknown => "unrecognized command"
  | .argumentUnknown => "unexpected argument"
  | .valueMissing => "an option lacks its value"
  | .repeated => "an argument cannot be used multiple times"
  | .valueUnwanted => "a value was given to an option that takes none"

def exitCode : Refusal → Nat
  | .helpAsked => 0
  | _ => 2

def lines : Refusal → List String
  | .helpAsked | .nothingGiven => usage
  | refusal => ["error: " ++ refusal.reason, ""] ++ usage

end FrontendAtlas.Command.Refusal
