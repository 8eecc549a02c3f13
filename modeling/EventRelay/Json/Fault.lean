import EventRelay.Text.Utf8

/-!
# What is wrong with a JSON text, and where

A fault is a cause and the number of bytes of the text that were read when it was found. Its place
is a line, counted from one, and the number of bytes of that line up to the fault.

* `Json.Fault.message`: the cause in words.
* `Json.placeAt`: line and column of a number of bytes.
-/

namespace EventRelay.Json

/-- Why a text is not a JSON document. -/
inductive Cause where
  | endInList
  | endInObject
  | endInString
  | endInValue
  | colonExpected
  | commaOrBracketExpected
  | commaOrBraceExpected
  | wordExpected
  | valueExpected
  | badEscape
  | badNumber
  | numberOutOfRange
  | controlInString
  | keyNotString
  | loneSurrogate
  | cutHexEscape
  | trailingComma
  | trailingCharacters
  | tooDeep
  /-- A value of another shape than the caller asked for. -/
  | otherShape (found expected : String)
  deriving DecidableEq, Repr

/-- The cause in words. -/
def Cause.message : Cause → String
  | .endInList => "EOF while parsing a list"
  | .endInObject => "EOF while parsing an object"
  | .endInString => "EOF while parsing a string"
  | .endInValue => "EOF while parsing a value"
  | .colonExpected => "expected `:`"
  | .commaOrBracketExpected => "expected `,` or `]`"
  | .commaOrBraceExpected => "expected `,` or `\x7d`"
  | .wordExpected => "expected ident"
  | .valueExpected => "expected value"
  | .badEscape => "invalid escape"
  | .badNumber => "invalid number"
  | .numberOutOfRange => "number out of range"
  | .controlInString => "control character (\\u0000-\\u001F) found while parsing a string"
  | .keyNotString => "key must be a string"
  | .loneSurrogate => "lone leading surrogate in hex escape"
  | .cutHexEscape => "unexpected end of hex escape"
  | .trailingComma => "trailing comma"
  | .trailingCharacters => "trailing characters"
  | .tooDeep => "recursion limit exceeded"
  | .otherShape found expected => "invalid type: " ++ found ++ ", expected " ++ expected

/-- A cause, what was left of the text when it was found, and the bytes of that rest which had
been looked at. -/
structure Fault where
  cause : Cause
  rest : List Char
  ahead : Nat
  deriving DecidableEq, Repr

/-- A fault at the start of the rest. -/
def Fault.here (cause : Cause) (rest : List Char) : Fault := ⟨cause, rest, 0⟩

/-- A fault at the first byte of the rest, or at the end when nothing is left. -/
def Fault.next (cause : Cause) (rest : List Char) : Fault :=
  ⟨cause, rest, if rest.isEmpty then 0 else 1⟩

/-- Line and column after the first `bytes` bytes of a text, from a given line and column on. -/
def placeFrom (line column : Nat) : List Char → Nat → Nat × Nat
  | [], _ => (line, column)
  | c :: rest, bytes =>
    if bytes < c.utf8Size then (line, column + bytes)
    else if c = '\n' then placeFrom (line + 1) 0 rest (bytes - 1)
    else placeFrom line (column + c.utf8Size) rest (bytes - c.utf8Size)

/-- Line and column after the first `bytes` bytes of a text. -/
def placeAt (text : List Char) (bytes : Nat) : Nat × Nat := placeFrom 1 0 text bytes

/-- A fault in words, with its line and column in the text. -/
def Fault.message (text : List Char) (fault : Fault) : String :=
  let read := Text.byteCount text - Text.byteCount fault.rest + fault.ahead
  let (line, column) := placeAt text read
  fault.cause.message ++ " at line " ++ toString line ++ " column " ++ toString column

end EventRelay.Json
