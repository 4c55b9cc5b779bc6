import SignOnGate.Text.Basic

/-!
# Address literals

What may stand between brackets as a host: an IPv6 address, with or without a zone, or a literal of
a future version of the protocol. IPv4 addresses are recognised so that they can be refused there.
-/

namespace SignOnGate

namespace Url

open Text

/-- A decimal number up to 255 without a leading zero. -/
def isOctet (text : Text) : Bool :=
  !text.isEmpty && text.all Char.isDigit && text.length ≤ 3 &&
    (text == ['0'] || text.head? != some '0') && digitsValue 10 text ≤ 255

/-- Four octets between dots. -/
def isIpv4 (text : Text) : Bool :=
  let octets := pieces '.' text
  octets.length == 4 && octets.all isOctet

/-- One to four hexadecimal digits. -/
def isHextet (text : Text) : Bool :=
  !text.isEmpty && text.all isHexDigit && text.length ≤ 4

/-- The groups on one side of the gap `::`; a lone empty group is the side that is not there. -/
def gapSide (groups : List Text) : List Text :=
  if groups = [[]] then [] else groups

/-- Eight groups, or fewer around one gap that stands for at least one group. -/
def areIpv6Groups (groups : List Text) : Bool :=
  match ((groups.drop 1).dropLast).findIdx? List.isEmpty with
  | some index =>
    let high := gapSide (groups.take (index + 1))
    let low := gapSide (groups.drop (index + 2))
    high.all isHextet && low.all isHextet && high.length + low.length ≤ 7
  | none => groups.length == 8 && groups.all isHextet

/-- The groups of an address; a dotted tail stands for two groups. -/
def ipv6Groups (address : Text) : List Text :=
  let groups := pieces ':' address
  match groups.getLast? with
  | some last => if isIpv4 last then groups.dropLast ++ [['0'], ['0']] else groups
  | none => groups

/-- An IPv6 address, with a zone behind a percent sign or without. -/
def isIpv6 (text : Text) : Bool :=
  let zone := after '%' text
  areIpv6Groups (ipv6Groups (before '%' text)) &&
    (!text.contains '%' || (!zone.isEmpty && !zone.contains '%'))

/-- A literal of a future version: `v`, hexadecimal digits, a dot and something behind it. -/
def isFutureAddress (text : Text) : Bool :=
  match text with
  | 'v' :: rest =>
    let version := before '.' rest
    !version.isEmpty && version.all isHexDigit && !(after '.' rest).isEmpty
  | _ => false

end Url

end SignOnGate
