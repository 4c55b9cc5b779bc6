import SignOnGate.Value

/-!
# Sessions

A session is the store that belongs to one client: values under text keys. A request may come
without one.
-/

namespace SignOnGate

/-- Values under text keys, kept for one client between its requests. -/
abbrev Session := OrderedMap Text Value

end SignOnGate
