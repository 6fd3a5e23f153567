import FrontendAtlas.Files.Content
import FrontendAtlas.Ignore.Glob
import FrontendAtlas.Text.Blank
import FrontendAtlas.Text.Search

namespace FrontendAtlas.Ignore

open FrontendAtlas.Text

inductive Verdict where
  | ignored
  | kept
  deriving DecidableEq

structure Rule where
  tokens : List GlobToken
  verdict : Verdict
  directoriesOnly : Bool

def trimLine (line : List Char) : List Char :=
  if endsWith ['\\', ' '] line then line else trimEnd line

/-- The pattern of a rule, made to fit whole paths: one without a slash fits at any depth, and one
that ends in `/**` does not fit the directory itself. -/
def wholePattern (anchored : Bool) (pattern : List Char) : List Char :=
  let deep := !anchored && !pattern.contains '/' && pattern != ['*', '*']
  let pattern := if deep then '*' :: '*' :: '/' :: pattern else pattern
  if endsWith ['/', '*', '*'] pattern then pattern ++ ['/', '*'] else pattern

def dropSlash (pattern : List Char) : List Char × Bool :=
  if pattern.getLast? = some '/' then
    let pattern := pattern.dropLast
    (if pattern.getLast? = some '\\' then pattern.dropLast else pattern, true)
  else (pattern, false)

def Rule.ofLine? (line : List Char) : Option Rule := do
  if line.head? = some '#' then none
  let line := trimLine line
  if line.isEmpty then none
  let (verdict, anchored, pattern) : Verdict × Bool × List Char := match line with
    | '\\' :: '!' :: rest => (.ignored, false, '!' :: rest)
    | '\\' :: '#' :: rest => (.ignored, false, '#' :: rest)
    | '!' :: '/' :: rest => (.kept, true, rest)
    | '!' :: rest => (.kept, false, rest)
    | '/' :: rest => (.ignored, true, rest)
    | line => (.ignored, false, line)
  let (pattern, directoriesOnly) := dropSlash pattern
  return ⟨← glob? (wholePattern anchored pattern), verdict, directoriesOnly⟩

def rulesOf (content : Content) : List Rule :=
  match content.lines with
  | [] => []
  | first :: rest =>
    (first.toList.dropWhile (· == '\ufeff') :: rest.map String.toList).filterMap Rule.ofLine?

def Rule.fits (rule : Rule) (path : List UInt8) (isDirectory : Bool) : Bool :=
  (!rule.directoriesOnly || isDirectory) && globMatches rule.tokens path

def verdict? (rules : List Rule) (path : List String) (isDirectory : Bool) : Option Verdict :=
  let bytes := (String.intercalate "/" path).toUTF8.toList
  (rules.reverse.find? fun rule => rule.fits bytes isDirectory).map (·.verdict)

end FrontendAtlas.Ignore
