/-!
# Characters of YAML

The classes of characters that the layout of a YAML text and the writing of its scalars depend on.
-/

namespace DerivedQuery.Yaml

/-- Whether a character ends a line. -/
def isBreak (c : Char) : Bool :=
  c == '\n' || c == '\r' || c == '\u0085' || c == '\u2028' || c == '\u2029'

/-- Whether a character is a space. -/
def isSpace (c : Char) : Bool := c == ' '

/-- Whether a character is a space or a tab. -/
def isBlank (c : Char) : Bool := isSpace c || c == '\t'

/-- Whether a character is a blank or a line end. -/
def isGap (c : Char) : Bool := isBlank c || isBreak c

/-- Whether a character is a blank or a line end, or the text ends there. -/
def isGapOrEnd (c : Option Char) : Bool := c.all isGap

/-- Whether a character can be part of a name in a YAML text. -/
def isWordChar (c : Char) : Bool := c.isAlphanum || c == '_' || c == '-'

/-- Whether a character can be written without an escape. -/
def isPrintable (c : Char) : Bool :=
  let n := c.toNat
  n == 0x0A || (0x20 ≤ n && n ≤ 0x7E) ||
    (0xA0 ≤ n && n != 0xFEFF && n != 0xFFFE && n != 0xFFFF)

/-- Whether a character may occur in a YAML text at all. -/
def isAllowed (c : Char) : Bool :=
  isPrintable c || c == '\t' || c == '\r' || c == '\u0085' || c == '\uFEFF'

/-- Whether a character has a meaning of its own within brackets and braces. -/
def isFlowIndicator (c : Char) : Bool :=
  c == ',' || c == '[' || c == ']' || c == '{' || c == '}'

/-- Whether a character has a meaning of its own at the start of a scalar. -/
def isIndicator (c : Char) : Bool :=
  isFlowIndicator c ||
    ['#', '&', '*', '!', '|', '>', '\x27', '"', '%', '@', '\x60'].contains c

/-- Whether a character has a meaning of its own in front of a gap. -/
def isGapIndicator (c : Char) : Bool := c == '-' || c == '?' || c == ':'

end DerivedQuery.Yaml
