/-! Patterns for paths.  They are matched byte by byte: a question mark stands for one byte, and a
character class for the bytes of the characters in it.  Only `**` reaches across slashes. -/

namespace FrontendAtlas.Ignore

inductive GlobToken where
  | byte (value : UInt8)
  | anyByte
  | anyInSegment
  /-- `**/` in front: nothing, or whole segments. -/
  | anySegmentsFirst
  /-- `/**/` in the middle: a slash, with or without whole segments after it. -/
  | anySegments
  /-- `/**` at the end: a slash and anything after it. -/
  | anyRest
  | oneOf (negated : Bool) (ranges : List (UInt8 × UInt8))
  | alternatives (branches : List (List GlobToken))

def slash : UInt8 := 47

def restsInSegment : List UInt8 → List (List UInt8)
  | [] => [[]]
  | byte :: rest => (byte :: rest) :: if byte = slash then [] else restsInSegment rest

def restsAfterSlash : List UInt8 → List (List UInt8)
  | [] => []
  | byte :: rest => if byte = slash then rest :: restsAfterSlash rest else restsAfterSlash rest

def allRests : List UInt8 → List (List UInt8)
  | [] => [[]]
  | byte :: rest => (byte :: rest) :: allRests rest

def restAfter (test : UInt8 → Bool) : List UInt8 → List (List UInt8)
  | byte :: rest => if test byte then [rest] else []
  | [] => []

def inRanges (ranges : List (UInt8 × UInt8)) (byte : UInt8) : Bool :=
  ranges.any fun (low, high) => low ≤ byte && byte ≤ high

mutual

def GlobToken.rests : GlobToken → List UInt8 → List (List UInt8)
  | .byte value, text => restAfter (· == value) text
  | .anyByte, text => restAfter (· != slash) text
  | .anyInSegment, text => restsInSegment text
  | .anySegmentsFirst, text => text :: restsAfterSlash text
  | .anySegments, text =>
    match text with
    | byte :: rest => if byte = slash then rest :: restsAfterSlash rest else []
    | [] => []
  | .anyRest, text =>
    match text with
    | byte :: rest => if byte = slash then allRests rest else []
    | [] => []
  | .oneOf negated ranges, text => restAfter (fun byte => inRanges ranges byte != negated) text
  | .alternatives branches, text => restsOfBranches branches text

def restsOfTokens : List GlobToken → List UInt8 → List (List UInt8)
  | [], text => [text]
  | token :: rest, text => (token.rests text).eraseDups.flatMap (restsOfTokens rest)

def restsOfBranches : List (List GlobToken) → List UInt8 → List (List UInt8)
  | [], _ => []
  | branch :: rest, text =>
    (if branch.isEmpty then [] else restsOfTokens branch text) ++ restsOfBranches rest text

end

/-- A pattern that is only `**` matches every path. -/
def globMatches (tokens : List GlobToken) (path : List UInt8) : Bool :=
  match tokens with
  | [.anySegmentsFirst] => true
  | tokens => (restsOfTokens tokens path).any (·.isEmpty)

def charBytes (c : Char) : List UInt8 :=
  (String.singleton c).toUTF8.toList

structure ClassState where
  ranges : List (Char × Char) := []
  inRange : Bool := false
  length : Nat := 0

inductive ClassReading where
  | closed (ranges : List (Char × Char)) (length : Nat)
  | unclosed
  | invalid

namespace ClassState

def read (state : ClassState) : List Char → ClassReading
  | [] => .unclosed
  | c :: rest =>
    let next := { state with length := state.length + 1 }
    match state.ranges with
    | [] => read { next with ranges := [(c, c)] } rest
    | (low, high) :: before =>
      if state.inRange then
        if c = ']' then .closed (('-', '-') :: state.ranges) next.length
        else if c < low then .invalid
        else read { next with ranges := (low, c) :: before, inRange := false } rest
      else if c = ']' then .closed state.ranges next.length
      else if c = '-' then read { next with inRange := true } rest
      else read { next with ranges := (c, c) :: (low, high) :: before } rest

end ClassState

/-- The byte ranges of a range of characters: the last byte of the lower end up to the first byte of
the upper end, and their other bytes alone. -/
def byteRanges (range : Char × Char) : List (UInt8 × UInt8) :=
  let (low, high) := range
  let single (byte : UInt8) : UInt8 × UInt8 := (byte, byte)
  if low = high then (charBytes low).map single
  else match (charBytes low).getLast?, charBytes high with
    | some last, first :: rest => (charBytes low).dropLast.map single ++ (last, first) :: rest.map single
    | _, _ => []

structure GlobState where
  tokens : List GlobToken := []
  branches : List (List GlobToken) := []
  outer : List (List GlobToken × List (List GlobToken)) := []
  previous : Option Char := none

namespace GlobState

def push (state : GlobState) (tokens : List GlobToken) : GlobState :=
  { state with tokens := tokens.reverse ++ state.tokens }

def doubleStar (state : GlobState) (next : Option Char) : GlobState × Bool :=
  let plain := (state.push [.anyInSegment, .anyInSegment], false)
  let afterGroupStart := !state.outer.isEmpty && (state.previous == some ',' || state.previous == some '{')
  if state.tokens.isEmpty then
    if next.all (· == '/') then (state.push [.anySegmentsFirst], next.isSome) else plain
  else if state.previous != some '/' && !afterGroupStart then plain
  else
    let ends := next.isNone || (!state.outer.isEmpty && (next == some ',' || next == some '}'))
    if !ends && next != some '/' then plain
    else match state.tokens with
      | .anySegmentsFirst :: _ | .anyRest :: _ => (state, !ends)
      | _ :: before =>
        ({ state with tokens := (if ends then .anyRest else .anySegments) :: before }, !ends)
      | [] => plain

end GlobState

/-- Reads the tokens of a pattern; the first `skip` characters have been dealt with.  None if a group
or an escape is not finished, or a range runs backwards.  A class without an end is plain text. -/
def globFrom : (skip : Nat) → GlobState → List Char → Option (List GlobToken)
  | _, state, [] => if state.outer.isEmpty then some state.tokens.reverse else none
  | skip + 1, state, c :: rest => globFrom skip { state with previous := some c } rest
  | 0, state, c :: rest =>
    let state' : GlobState := { state with previous := some c }
    match c with
    | '?' => globFrom 0 (state'.push [.anyByte]) rest
    | '*' =>
      if rest.head? = some '*' then
        let (next, withSlash) := state.doubleStar rest.tail.head?
        globFrom (if withSlash then 2 else 1) next rest
      else globFrom 0 (state'.push [.anyInSegment]) rest
    | '[' =>
      let negated := rest.head? == some '!' || rest.head? == some '^'
      match ClassState.read {} (if negated then rest.tail else rest) with
      | .closed ranges length =>
        globFrom (length + if negated then 1 else 0)
          (state.push [.oneOf negated (ranges.reverse.flatMap byteRanges)]) rest
      | .unclosed => globFrom 0 (state'.push [.byte 91]) rest
      | .invalid => none
    | '{' => globFrom 0 { state' with tokens := [], branches := [], outer := (state.tokens, state.branches) :: state.outer } rest
    | '}' =>
      match state.outer with
      | [] => none
      | (tokens, branches) :: outer =>
        let group := GlobToken.alternatives (state.tokens.reverse :: state.branches).reverse
        globFrom 0 { state' with tokens := group :: tokens, branches, outer } rest
    | ',' =>
      if state.outer.isEmpty then globFrom 0 (state'.push [.byte 44]) rest
      else globFrom 0 { state' with tokens := [], branches := state.tokens.reverse :: state.branches } rest
    | '\\' =>
      match rest with
      | [] => none
      | d :: _ => globFrom 1 (state.push ((charBytes d).map .byte)) rest
    | c => globFrom 0 (state'.push ((charBytes c).map .byte)) rest

def glob? (pattern : List Char) : Option (List GlobToken) :=
  globFrom 0 {} pattern

end FrontendAtlas.Ignore
