import BuildDiagnostics.Text.Properties
/-!
# Text quoted for inspection

Log records and error messages show a text between double quotes, with
everything escaped that would not be seen as itself: the quote and the
backslash, controls and other characters without a shape, and characters
that would join the one before them. An apostrophe stands as it is.
-/


namespace BuildDiagnostics

namespace Text

/-- One character between the quotes. -/
def quoteChar (c : Char) : List Char :=
  match c with
  | '"' => ['\\', '"']
  | '\\' => ['\\', '\\']
  | '\n' => ['\\', 'n']
  | '\r' => ['\\', 'r']
  | '\t' => ['\\', 't']
  | '\x00' => ['\\', '0']
  | c =>
    if isCombining c || isHidden c then
      ['\\', 'u', '\x7b'] ++ Nat.toDigits 16 c.toNat ++ ['\x7d']
    else [c]

/-- A text between double quotes. -/
def quoted (s : String) : String :=
  String.ofList ('"' :: s.toList.flatMap quoteChar ++ ['"'])

end Text

end BuildDiagnostics
