import BuildDiagnostics.Diagnostic
import BuildDiagnostics.Source.Excerpt
import BuildDiagnostics.Source.Place
/-!
# Snippets

A diagnostic whose file can be read and holds its place is shown with a
snippet of that file, under one label with the place in words. Any other
says in its help text where it was reported. What is shown is made once
from the diagnostic and the content (`Annotated.exhibit`), and then asked
for its parts.
-/


namespace BuildDiagnostics

/-- A diagnostic with the content of its file, if that could be read. -/
structure Annotated where
  /-- The diagnostic. -/
  diagnostic : Diagnostic
  /-- The content of its file. -/
  content : Option String
deriving DecidableEq

/-- A mark in a content. -/
structure Label where
  /-- The bytes before it. -/
  offset : Nat
  /-- The bytes it covers. -/
  length : Nat
  /-- What it says. -/
  text : String
  /-- Whether it is the main one. -/
  isPrimary : Bool
deriving DecidableEq

/-- What is shown of a diagnostic. -/
structure Exhibit where
  /-- The diagnostic. -/
  diagnostic : Diagnostic
  /-- The content that a snippet is taken from. -/
  source : Option String
  /-- The bytes before the place in the content. -/
  offset : Option Nat
deriving DecidableEq

namespace Exhibit

/-- Whether a snippet is shown. -/
def hasSnippet (e : Exhibit) : Bool := e.source.isSome

/-- The advice, which stands in for the snippet. -/
def help (e : Exhibit) : Option String :=
  if e.hasSnippet then none else some ("reported at " ++ e.diagnostic.place)

/-- The marks of the snippet. -/
def labels (e : Exhibit) : Option (List Label) :=
  if e.source.isNone then none
  else e.offset.map fun o => [⟨o, 0, e.diagnostic.place, true⟩]

/-- The excerpt of the content around the first mark. -/
def excerpt (e : Exhibit) : Option Source.Excerpt := do
  let content ← e.source
  let label ← (← e.labels).head?
  let after ← Text.afterBytes? label.offset content.toList
  let before := content.toList.take (content.toList.length - after.length)
  some (.around before after)

/-- The diagnostic and its offset, for inspection. -/
def inspect (e : Exhibit) : String :=
  let offset := match e.offset with
    | none => "None"
    | some o => "Some(" ++ toString o ++ ")"
  "DiagnosticAdapter \x7b diag: " ++ e.diagnostic.inspect ++ ", offset: " ++ offset ++ " \x7d"

end Exhibit

namespace Annotated

/-- What is shown: the content is kept only when the place is in it. -/
def exhibit (a : Annotated) : Exhibit :=
  let offset := a.content.bind fun content => Source.offset? content a.diagnostic.range.start
  let source := match offset with
    | some _ => a.content
    | none => none
  ⟨a.diagnostic, source, offset⟩

/-- Whether a snippet is shown. -/
def hasSnippet (a : Annotated) : Bool := a.exhibit.hasSnippet

/-- The content that the snippet is taken from. -/
def sourceCode (a : Annotated) : Option String := a.exhibit.source

/-- The advice, which stands in for the snippet. -/
def help (a : Annotated) : Option String := a.exhibit.help

/-- The marks of the snippet. -/
def labels (a : Annotated) : Option (List Label) := a.exhibit.labels

/-- The excerpt around the diagnostic. -/
def excerpt (a : Annotated) : Option Source.Excerpt := a.exhibit.excerpt

/-- The diagnostic and its offset, for inspection. -/
def inspect (a : Annotated) : String := a.exhibit.inspect

end Annotated

end BuildDiagnostics
