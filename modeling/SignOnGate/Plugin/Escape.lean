import SignOnGate.Text.Basic

/-!
# Failures of plugins

A plugin may fail in ways that the gate knows nothing about, and a pattern may have no answer for a
URL. Such a failure is passed on as it is; only its kind is kept.
-/

namespace SignOnGate

/-- A failure of a plugin. -/
inductive Escape where
  /-- The plugin does not have the operation that is asked for. -/
  | missingOperation
  /-- The pattern of an exclusion rule has no answer. -/
  | noAnswer
  /-- The plugin failed with an error of its own kind. -/
  | raised (kind : Text)
  deriving Repr, DecidableEq

end SignOnGate
