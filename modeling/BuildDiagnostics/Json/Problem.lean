import BuildDiagnostics.Decimal.Shortest
import BuildDiagnostics.Text.Names
import BuildDiagnostics.Text.Quoted
import BuildDiagnostics.Text.Utf8
/-!
# What can be wrong with a JSON text

A reader stops at the first thing that is wrong and says what it is
(`Reason`) and how many bytes of the text it had not read by then
(`Failure`). Only against the whole text does this become a line and a
column (`Problem`), both of the last byte read.
-/


namespace BuildDiagnostics

namespace Json

/-- Which bracket closes what is being read. -/
inductive Bracket where
  /-- The bracket of an array. -/
  | list
  /-- The bracket of an object. -/
  | object
deriving DecidableEq

/-- A value that is not of the type that was expected. -/
inductive Found where
  /-- The null value. -/
  | null
  /-- A boolean. -/
  | boolean (b : Bool)
  /-- An integer within 64 bits. -/
  | integer (i : Int)
  /-- Any other number. -/
  | float (x : Float)
  /-- A string. -/
  | string (s : String)
  /-- An array. -/
  | sequence
  /-- An object. -/
  | map

/-- Doubles in messages: positional from five places after the point to
sixteen before it. -/
def floatStyle : Decimal.Style := ⟨-5, 15⟩

/-- The words for a value in a message. -/
def Found.text : Found → String
  | null => "null"
  | boolean b => "boolean `" ++ (if b then "true" else "false") ++ "`"
  | integer i => "integer `" ++ toString i ++ "`"
  | float x => "floating point `" ++ floatStyle.write x ++ "`"
  | string s => "string " ++ Text.quoted s
  | sequence => "sequence"
  | map => "map"

/-- Why a reader stops. -/
inductive Reason where
  /-- The text ends where a value should stand. -/
  | endInValue
  /-- The text ends within a string. -/
  | endInString
  /-- The text ends within an array or an object. -/
  | endWithin (bracket : Bracket)
  /-- A word is not one of the three that are values. -/
  | expectedWord
  /-- Something other than a value stands in its place. -/
  | expectedValue
  /-- No colon after a key. -/
  | expectedColon
  /-- Neither a comma nor the closing bracket after an item. -/
  | expectedComma (bracket : Bracket)
  /-- Something other than a string stands in place of a key. -/
  | expectedKey
  /-- A comma with nothing after it. -/
  | trailingComma
  /-- Something stands after the end. -/
  | trailingCharacters
  /-- A number without a digit where one is needed. -/
  | invalidNumber
  /-- A number too large for a double. -/
  | numberTooLarge
  /-- A control character in a string. -/
  | controlCharacter
  /-- An escape of no known form. -/
  | invalidEscape
  /-- Half of a surrogate pair. -/
  | loneSurrogate
  /-- The first half of a surrogate pair with no escape after it. -/
  | endOfSurrogate
  /-- A value of the wrong type. -/
  | wrongType (found : Found) (expected : String)
  /-- A key that stands twice. -/
  | duplicateKey (key : String)
  /-- A name that is not one of those expected. -/
  | unknownName (name : String) (expected : List String)

/-- The words of a reason. -/
def Reason.text : Reason → String
  | endInValue => "EOF while parsing a value"
  | endInString => "EOF while parsing a string"
  | endWithin .list => "EOF while parsing a list"
  | endWithin .object => "EOF while parsing an object"
  | expectedWord => "expected ident"
  | expectedValue => "expected value"
  | expectedColon => "expected `:`"
  | expectedComma .list => "expected `,` or `]`"
  | expectedComma .object => "expected `,` or `\x7d`"
  | expectedKey => "key must be a string"
  | trailingComma => "trailing comma"
  | trailingCharacters => "trailing characters"
  | invalidNumber => "invalid number"
  | numberTooLarge => "number out of range"
  | controlCharacter => "control character (\\u0000-\\u001F) found while parsing a string"
  | invalidEscape => "invalid escape"
  | loneSurrogate => "lone leading surrogate in hex escape"
  | endOfSurrogate => "unexpected end of hex escape"
  | wrongType found expected => "invalid type: " ++ found.text ++ ", expected " ++ expected
  | duplicateKey key => "duplicate field `" ++ key ++ "`"
  | unknownName name expected => Text.unknownName name expected

/-- Why a reader stopped, and how many bytes were left then. -/
structure Failure where
  /-- The reason. -/
  reason : Reason
  /-- The bytes not read. -/
  unread : Nat

namespace Failure

/-- A failure with `rest` left to read. -/
def before (rest : List Char) (reason : Reason) : Failure := ⟨reason, Text.byteSize rest⟩

/-- A failure past the next byte, which counts as read when there is one. -/
def past (rest : List Char) (reason : Reason) : Failure := ⟨reason, Text.byteSize rest - 1⟩

/-- A failure at the end of the text. -/
def atEnd (reason : Reason) : Failure := ⟨reason, 0⟩

end Failure

/-- What is wrong with a text, and where. -/
structure Problem where
  /-- What is wrong. -/
  reason : Reason
  /-- The line, counted from one. -/
  line : Nat
  /-- How many bytes of that line were read. -/
  column : Nat

namespace Problem

/-- The words of a problem. -/
def text (p : Problem) : String :=
  p.reason.text ++ " at line " ++ toString p.line ++ " column " ++ toString p.column

/-- A failure with its place in the text that was read. -/
def ofFailure (text : List Char) (f : Failure) : Problem :=
  let bytes := Text.encode (String.ofList text)
  let consumed := bytes.take (bytes.length - f.unread)
  ⟨f.reason, consumed.count 10 + 1, (consumed.reverse.takeWhile (· ≠ 10)).length⟩

end Problem

end Json

end BuildDiagnostics
