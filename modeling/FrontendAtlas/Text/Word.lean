import FrontendAtlas.Text.Alphabetic
import FrontendAtlas.Text.Numeric
import FrontendAtlas.Text.Mark

/-! Two readings of "part of a word": what an identifier may hold, and what a word boundary
separates.  Marks, connectors and joiners belong to the second only, number signs that are not
decimal digits to the first only. -/

namespace FrontendAtlas.Text

def isAlphanumeric (c : Char) : Bool :=
  isAlphabetic c || isNumeric c

def isIdentChar (c : Char) : Bool :=
  isAlphanumeric c || c == '_' || c == '$'

def connectorTable : Table := [
    (0x203F, 0x2040), (0x2054, 0x2054), (0xFE33, 0xFE34), (0xFE4D, 0xFE4F), (0xFF3F, 0xFF3F)]

def isConnector (c : Char) : Bool :=
  if c.toNat < 128 then c == '_' else connectorTable.has c

def isJoiner (c : Char) : Bool :=
  c == '\u200c' || c == '\u200d'

def isWordChar (c : Char) : Bool :=
  isAlphabetic c || isMark c || isDecimal c || isConnector c || isJoiner c

end FrontendAtlas.Text
