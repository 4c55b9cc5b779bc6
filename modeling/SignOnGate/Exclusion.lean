import SignOnGate.Pattern
import SignOnGate.Plugin.Escape

/-!
# Exclusion rules

A rule for the URLs that need no login. A rule looks at the whole URL, its query included.
-/

namespace SignOnGate

/-- A rule for the URLs that need no login. -/
inductive Exclusion where
  /-- Exactly the given URL. -/
  | exact (url : Text)
  /-- All URLs in which the given text occurs. -/
  | contains (part : Text)
  /-- All URLs that the pattern matches as a whole. -/
  | pattern (pattern : Pattern)
  /-- The URLs that a plugin accepts. -/
  | custom (className : Text) (accepts : Text → Except Escape Bool)

namespace Exclusion

/-- Whether a URL needs no login. -/
def accepts (exclusion : Exclusion) (url : Text) : Except Escape Bool :=
  match exclusion with
  | .exact expected => .ok (url == expected)
  | .contains part => .ok (Text.occursIn part url)
  | .pattern rule =>
    match rule.accepts? url with
    | some accepted => .ok accepted
    | none => .error .noAnswer
  | .custom _ accepts => accepts url

/-- The class name that a rule is shown under. -/
def className : Exclusion → Text
  | .exact _ => "ExactUrlPatternMatcher".toList
  | .contains _ => "ContainsUrlPatternMatcher".toList
  | .pattern _ => "RegexUrlPatternMatcher".toList
  | .custom className _ => className

end Exclusion

end SignOnGate
