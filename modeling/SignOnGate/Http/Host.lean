import SignOnGate.Text.Basic

/-!
# Named hosts

What a request may name as its host: a registered name or an address, and then perhaps a port. A
registered name has letters, digits and some marks, and all else in percent-encoded form; an address
with colons stands in brackets. Any other text could move the border between the host and what
stands behind it in a URL, so Starlette 1.10, which is followed here, passes it over.
-/

namespace SignOnGate

namespace Http

open Text

/-- A character that a registered name may have as it is. -/
def isNameChar (char : Char) : Bool :=
  char.isAlphanum || "-._~!$&'()*+,;=".toList.contains char

/-- Characters of a registered name; a percent sign has two hexadecimal digits behind it. -/
def isNameText : Text → Bool
  | [] => true
  | '%' :: high :: low :: rest => isHexDigit high && isHexDigit low && isNameText rest
  | char :: rest => isNameChar char && isNameText rest

/-- A port behind a host: none, or a colon and any number of digits. -/
def isPortPart : Text → Bool
  | [] => true
  | char :: rest => char == ':' && rest.all Char.isDigit

/--
Whether a text names a host that Starlette 1.10 puts into a URL; it passes over any other text.
-/
def namesHost : Text → Bool
  | '[' :: rest =>
    let address := before ']' rest
    !address.isEmpty && address.all (fun char => isHexDigit char || char == ':' || char == '.') &&
      rest.contains ']' && isPortPart (after ']' rest)
  | text =>
    let name := before ':' text
    !name.isEmpty && isNameText name && isPortPart (text.drop name.length)

end Http

end SignOnGate
