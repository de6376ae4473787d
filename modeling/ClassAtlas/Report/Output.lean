import ClassAtlas.Json.Printer

/-!
# Output formats

A report is printed as text for people, or as JSON in one of two layouts.
-/

namespace ClassAtlas

/-- How a report is printed. -/
inductive OutputFormat where
  | text
  /-- Indented JSON. -/
  | json
  /-- JSON on one line. -/
  | compact
deriving DecidableEq, Repr, Inhabited

/-- The output formats by name. -/
def OutputFormat.names : List (String × OutputFormat) :=
  [("text", .text), ("json", .json), ("compact", .compact)]

/-- A report in a format. -/
def OutputFormat.render (format : OutputFormat) (json : Json) (text : String) : String :=
  match format with
  | .text => text
  | .json => json.pretty
  | .compact => json.compact

namespace Report

/-- Lines of text, each ended by a line break. -/
def lines (texts : List String) : String :=
  String.join (texts.map (· ++ "\n"))

/-- The text filled up with blanks to a width; a longer text stays as it is. -/
def padRight (width : Nat) (text : String) : String :=
  text ++ String.ofList (List.replicate (width - text.length) ' ')

end Report

end ClassAtlas
