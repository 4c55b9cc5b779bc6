import SignOnGate.Text.Basic

/-!
# Attribute values of an XML document

A text as a quoted attribute value. Markup characters and line ends become references. Double quotes
are used, unless the text holds some and no single one; when it holds both, the double quotes inside
become references too.
-/

namespace SignOnGate

namespace Attribute

/-- A character as it stands in a value, quotes apart. -/
def escapeChar (char : Char) : Text :=
  match char with
  | '&' => "&amp;".toList
  | '<' => "&lt;".toList
  | '>' => "&gt;".toList
  | '\n' => "&#10;".toList
  | '\r' => "&#13;".toList
  | '\t' => "&#9;".toList
  | other => [other]

/-- A character as it stands in a value between double quotes. -/
def escapeQuoteChar (char : Char) : Text :=
  if char = '"' then "&quot;".toList else escapeChar char

/-- A text as a value, with its quotes. -/
def encode (text : Text) : Text :=
  if '"' ∈ text ∧ '\'' ∉ text then '\'' :: text.flatMap escapeChar ++ ['\'']
  else '"' :: text.flatMap escapeQuoteChar ++ ['"']

end Attribute

end SignOnGate
