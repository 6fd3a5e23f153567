/-! Quoted literals.  A backslash escapes the character after it.  A literal in single or double
quotes also ends before a newline; one in backticks does not. -/

namespace FrontendAtlas.Source

def isQuote (c : Char) : Bool :=
  c == '\x27' || c == '\x22' || c == '\x60'

def breaksLiteral (quote c : Char) : Bool :=
  c == '\n' && quote != '\x60'

inductive BlankMode where
  | code
  | quoted (quote : Char) (escaped : Bool)
  | template

namespace BlankMode

def enter (c : Char) : BlankMode :=
  if c = '\x60' then .template else if isQuote c then .quoted c false else .code

/-- What an unfinished literal leaves behind: an escaped quote at its very end counts as its end. -/
def leave (quote : Char) (escaped : Bool) : List Char :=
  if escaped then [quote] else []

end BlankMode

def blankFrom : BlankMode → List Char → List Char
  | .quoted quote escaped, [] => BlankMode.leave quote escaped
  | _, [] => []
  | .code, c :: rest => c :: blankFrom (.enter c) rest
  | .template, '\\' :: c :: rest => '\\' :: c :: blankFrom .template rest
  | .template, c :: rest => c :: blankFrom (if c = '\x60' then .code else .template) rest
  | .quoted quote _, '\\' :: c :: rest => blankFrom (.quoted quote (c == quote)) rest
  | .quoted quote escaped, c :: rest =>
    if c = '\n' then BlankMode.leave quote escaped ++ '\n' :: blankFrom .code rest
    else if c = quote then quote :: blankFrom .code rest
    else blankFrom (.quoted quote false) rest

/-- The text with the contents of its single- and double-quoted literals removed.  Template literals
stay, since their interpolations hold code. -/
def blankLiterals (text : List Char) : List Char :=
  blankFrom .code text

def unfinishedLiteral (quote : Char) : List Char → List (List Char)
  | c :: body => if c = quote then [body.reverse] else []
  | [] => []

def literalsFrom : (pending : Option (Char × List Char)) → List Char → List (List Char)
  | none, [] => []
  | some (quote, body), [] => unfinishedLiteral quote body
  | none, c :: rest => literalsFrom (if isQuote c then some (c, []) else none) rest
  | some (quote, body), '\\' :: c :: rest => literalsFrom (some (quote, c :: '\\' :: body)) rest
  | some (quote, body), c :: rest =>
    if breaksLiteral quote c then unfinishedLiteral quote body ++ literalsFrom none rest
    else if c = quote then body.reverse :: literalsFrom none rest
    else literalsFrom (some (quote, c :: body)) rest

def literals (text : List Char) : List (List Char) :=
  literalsFrom none text

end FrontendAtlas.Source
