/-!
# Names in messages

A message about a name that is not known shows it between backquotes, and
after it the names that are.
-/


namespace BuildDiagnostics

namespace Text

/-- A name between backquotes. -/
def backquoted (name : String) : String := "`" ++ name ++ "`"

/-- The message about a name that is none of those expected. -/
def unknownName (name : String) (expected : List String) : String :=
  "unknown variant " ++ backquoted name ++ ", expected " ++
    " or ".intercalate (expected.map backquoted)

end Text

end BuildDiagnostics
