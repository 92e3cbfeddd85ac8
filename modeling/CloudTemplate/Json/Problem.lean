/-!
# What can be wrong with the text of a document

A problem is a kind and an offset: the number of bytes that had been taken when it was noticed.  The
offset is turned into a line and a column only when the problem is reported (`positionOf`); both
count bytes, so that an offset may fall inside a character.

Two readers look at a text.  Values that are kept are read strictly.  The value of an unknown field
is only skimmed, which asks for less and notices some problems under another name; a place where
both readers have to give up is a `Stop`, with the problem for each.
-/

namespace CloudTemplate

/-- The ways in which a text fails to be JSON. -/
inductive SyntaxError where
  | eofInValue
  | eofInObject
  | eofInList
  | eofInText
  | expectedValue
  | expectedColon
  | expectedListEnd
  | expectedObjectEnd
  | expectedLiteral
  | keyNotText
  | trailingComma
  | trailingCharacters
  | invalidNumber
  | numberOutOfRange
  | invalidEscape
  | loneSurrogate
  | unexpectedHexEnd
  | controlCharacter
  | recursionLimit
deriving DecidableEq

/-- The wording of a problem. -/
def SyntaxError.message : SyntaxError → String
  | .eofInValue => "EOF while parsing a value"
  | .eofInObject => "EOF while parsing an object"
  | .eofInList => "EOF while parsing a list"
  | .eofInText => "EOF while parsing a string"
  | .expectedValue => "expected value"
  | .expectedColon => "expected `:`"
  | .expectedListEnd => "expected `,` or `]`"
  | .expectedObjectEnd => "expected `,` or `\x7d`"
  | .expectedLiteral => "expected ident"
  | .keyNotText => "key must be a string"
  | .trailingComma => "trailing comma"
  | .trailingCharacters => "trailing characters"
  | .invalidNumber => "invalid number"
  | .numberOutOfRange => "number out of range"
  | .invalidEscape => "invalid escape"
  | .loneSurrogate => "lone leading surrogate in hex escape"
  | .unexpectedHexEnd => "unexpected end of hex escape"
  | .controlCharacter =>
    "control character (\\u0000-\\u001F) found while parsing a string"
  | .recursionLimit => "recursion limit exceeded"

/-- A syntax error and the number of bytes taken when it is noticed. -/
structure Problem where
  error : SyntaxError
  offset : Nat
deriving DecidableEq

/-- A place where both readers give up. -/
structure Stop where
  /-- The problem for a reader that keeps the value. -/
  strict : Problem
  /-- The problem for a reader that skips the value. -/
  skim : Problem
deriving DecidableEq

/-- A place where both readers give up with the same problem. -/
def Stop.both (error : SyntaxError) (offset : Nat) : Stop := ⟨⟨error, offset⟩, ⟨error, offset⟩⟩

/-- The line and the column of an offset, from the line and column reached so far: one line more for
each new line among the bytes before the offset, and the number of bytes since the last of them. -/
def positionFrom (line column remaining : Nat) : List Char → Nat × Nat
  | [] => (line, column + remaining)
  | c :: rest =>
    if remaining < c.utf8Size then (line, column + remaining)
    else if c = '\n' then positionFrom (line + 1) 0 (remaining - 1) rest
    else positionFrom line (column + c.utf8Size) (remaining - c.utf8Size) rest

/-- The line, from one, and the column of an offset in a text. -/
def positionOf (text : String) (offset : Nat) : Nat × Nat := positionFrom 1 0 offset text.toList

end CloudTemplate
