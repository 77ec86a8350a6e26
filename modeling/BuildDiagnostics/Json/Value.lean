/-!
# JSON values and their text

The values that reports are made of: natural numbers, strings, arrays and
objects. Their text is compact, members keep their order, and a string
escapes the quote, the backslash and the controls below the blank and
nothing else, so that a text never holds a line break.
-/


namespace BuildDiagnostics

namespace Json

/-- A value of a report. -/
inductive Value where
  /-- A natural number. -/
  | number (n : Nat)
  /-- A string. -/
  | string (s : String)
  /-- An array. -/
  | array (items : List Value)
  /-- An object; its members keep their order. -/
  | object (members : List (String × Value))

/-- A character within a string. -/
def escapeChar (c : Char) : List Char :=
  match c with
  | '"' => ['\\', '"']
  | '\\' => ['\\', '\\']
  | '\x08' => ['\\', 'b']
  | '\x0c' => ['\\', 'f']
  | '\n' => ['\\', 'n']
  | '\r' => ['\\', 'r']
  | '\t' => ['\\', 't']
  | c =>
    if c < ' ' then
      ['\\', 'u', '0', '0', Nat.digitChar (c.toNat / 16), Nat.digitChar (c.toNat % 16)]
    else [c]

/-- A string with its quotes. -/
def quote (s : String) : List Char :=
  '"' :: s.toList.flatMap escapeChar ++ ['"']

namespace Value

mutual

/-- The text of a value. -/
def chars : Value → List Char
  | number n => Nat.toDigits 10 n
  | string s => quote s
  | array items => '[' :: itemChars items ++ [']']
  | object members => '\x7b' :: memberChars members ++ ['\x7d']

/-- The text of the items of an array, with commas between. -/
def itemChars : List Value → List Char
  | [] => []
  | [v] => chars v
  | v :: w :: vs => chars v ++ ',' :: itemChars (w :: vs)

/-- The text of the members of an object, with commas between. -/
def memberChars : List (String × Value) → List Char
  | [] => []
  | [(k, v)] => quote k ++ ':' :: chars v
  | (k, v) :: m :: ms => quote k ++ ':' :: (chars v ++ ',' :: memberChars (m :: ms))

end

/-- The text of a value. -/
def render (v : Value) : String := String.ofList v.chars

end Value

end Json

end BuildDiagnostics
