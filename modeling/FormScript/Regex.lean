/-
Regular expressions as values: a pattern and its options. The options are
those that come with the pattern together with those that it turns on itself.
-/

namespace FormScript

/-- The options of a regular expression. -/
structure RegexFlags where
  ignoreCase : Bool := false
  multiline : Bool := false
  dotAll : Bool := false
  verbose : Bool := false
  ascii : Bool := false
  /-- The pattern is a template, in which nothing is repeated. -/
  template : Bool := false
deriving DecidableEq, Inhabited

/-- A regular expression, by its pattern and its options. -/
structure Regex where
  pattern : String
  flags : RegexFlags := {}
deriving DecidableEq, Inhabited

end FormScript
