import Pipework.Log.Directive

/-!
# The filter of the process

What the process reports on its own standard error can be narrowed by a text from outside: a list of
directives separated by commas. A text with a bad directive counts as absent, and then everything
the shell reports passes.

`processFilter` gives the text that such a filter is shown as: first the directives that concern
whole records, then those that concern spans or fields, each group the most specific first. A
directive that asks for fields without their values stands in both groups.
-/

namespace Pipework

/-- The text of the filter made of some directives. -/
def processFilterText (directives : List Directive) : String :=
  let dynamic := (directives.filter (·.isDynamic)).foldl (fun ds d => d.insertIn ds) []
  let whole := (directives.filter (!·.isDynamic)) ++
    (directives.filter fun d => d.isDynamic && d.isStatic)
  let rules := (Filter.ofRules (whole.map (·.toRule))).rules
  joined "," <|
    (rules.map fun r => Directive.textOf r.target none r.fields r.level) ++ dynamic.map (·.text)

/-- The directives of a text. -/
def readDirectives (s : String) : Except DirectiveError (List Directive) :=
  ((Text.pieces (· == ',') s.toList).filter (!·.isEmpty)).mapM Directive.read?

/-- The process filter that a text asks for, shown as a text; by default everything passes that the
shell named `shell` reports, and warnings of everything else. There is none if the parts of a
directive cannot be taken from the text. -/
def processFilter (shell : String) (asked : Option String) : Option String :=
  let standard := processFilterText [{ level := .warn }, { target := some shell }]
  match asked.map readDirectives with
  | none | some (.error .malformed) => some standard
  | some (.error .insideChar) => none
  | some (.ok directives) => some (processFilterText directives)

end Pipework
