import BuildDiagnostics.Location
/-!
# Faults

What an error text comes down to: a message, and the places it names from
the outermost inwards. A text of no known form gives the empty fault.
-/


namespace BuildDiagnostics

/-- A message and the places it is about. -/
structure Fault where
  /-- The message; it may be empty. -/
  message : String
  /-- The places, in the order in which the text names them. -/
  locations : List Location
deriving DecidableEq

namespace Fault

/-- The fault of a text that says nothing. -/
def empty : Fault := ⟨"", []⟩

/-- Whether there is neither a message nor a place. -/
def isEmpty (f : Fault) : Bool := f.message = "" && f.locations.isEmpty

/-- The fault with the names of its parts, for inspection. -/
def inspect (f : Fault) : String :=
  "ParseResult \x7b message: " ++ Text.quoted f.message ++ ", locations: [" ++
    ", ".intercalate (f.locations.map Location.inspect) ++ "] \x7d"

end Fault

end BuildDiagnostics
