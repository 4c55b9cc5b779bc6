import SignOnGate.Url.Address
import SignOnGate.Text.Integer
import SignOnGate.Text.Lower
import SignOnGate.Text.Quoted

/-!
# URLs

A URL is its five parts. This file gives the split of a text into the parts, the join of the parts
into a text, the host and the port inside the authority, and the faults that these can have.

Splitting ignores control characters and spaces at the front, and tabs and line ends anywhere. It
looks into the authority only for brackets and for characters that would turn into a delimiter under
compatibility normalization.
-/

namespace SignOnGate

/-- A URL in its five parts; an empty part is the same as one that is not there. -/
structure Url where
  scheme : Text := []
  authority : Text := []
  path : Text := []
  query : Text := []
  fragment : Text := []
  deriving Repr, DecidableEq

namespace Url

open Text

/-! ## Faults -/

/-- What can be wrong with the authority of a URL. -/
inductive Fault where
  /-- The brackets do not match, or text stands next to them. -/
  | brackets
  /-- The host in brackets is a dotted address. -/
  | dottedInBrackets
  /-- The host in brackets starts like a future address and is none. -/
  | futureAddress
  /-- The host in brackets is no address. -/
  | noAddress (host : Text)
  /-- A character stands for a delimiter. -/
  | hiddenDelimiter (authority : Text)
  /-- The port is not a number. -/
  | portNotNumeric (port : Text)
  /-- The port has too many digits to be read. -/
  | portTooLong (digits : Nat)
  /-- The port is above 65535. -/
  | portOutOfRange
  deriving Repr, DecidableEq

/-- The words for a fault. -/
def Fault.message : Fault → Text
  | brackets => "Invalid IPv6 URL".toList
  | dottedInBrackets => "An IPv4 address cannot be in brackets".toList
  | futureAddress => "IPvFuture address is invalid".toList
  | noAddress host => quoted host ++ " does not appear to be an IPv4 or IPv6 address".toList
  | hiddenDelimiter authority =>
    "netloc '".toList ++ authority ++
      "' contains invalid characters under NFKC normalization".toList
  | portNotNumeric port => "Port could not be cast to integer value as ".toList ++ quoted port
  | portTooLong digits => digitLimitMessage digits
  | portOutOfRange => "Port out of range 0-65535".toList

/-! ## Authority -/

/-- The part of an authority behind the user information. -/
def hostPart (authority : Text) : Text :=
  afterLast '@' authority

/-- The host as it stands in an authority, without its brackets. -/
def rawHost (authority : Text) : Text :=
  let part := hostPart authority
  if '[' ∈ part then before ']' (after '[' part) else before ':' part

/-- The port as it stands in an authority. -/
def rawPort (authority : Text) : Text :=
  let part := hostPart authority
  if '[' ∈ part then after ':' (after ']' (after '[' part)) else after ':' part

/-- A host in small letters; the zone behind a percent sign is kept as it is. -/
def lowerHost (host : Text) : Text :=
  lower (before '%' host) ++ host.dropWhile (· != '%')

/-- The host in small letters; none when it is empty. -/
def hostname? (url : Url) : Option Text :=
  let host := rawHost url.authority
  if host.isEmpty then none else some (lowerHost host)

/-- The number that a port stands for. -/
def readPort (port : Text) : Except Fault Nat :=
  if !port.all Char.isDigit then .error (.portNotNumeric port)
  else if digitLimit < port.length then .error (.portTooLong port.length)
  else
    let number := digitsValue 10 port
    if 65535 < number then .error .portOutOfRange else .ok number

/-- The port; none when it is empty. -/
def port? (url : Url) : Except Fault (Option Nat) :=
  let port := rawPort url.authority
  if port.isEmpty then .ok none else (readPort port).map some

/-- Characters whose compatibility form holds one of the delimiters `/ ? # @ :`. -/
def hidesDelimiter (char : Char) : Bool :=
  [0x2047, 0x2048, 0x2049, 0x2100, 0x2101, 0x2105, 0x2106, 0x2A74, 0xFE13, 0xFE16, 0xFE55, 0xFE56,
    0xFE5F, 0xFE6B, 0xFF03, 0xFF0F, 0xFF1A, 0xFF1F, 0xFF20].contains char.toNat

/-- The check of a host between brackets. -/
def checkBracketedHost (host : Text) : Except Fault Unit :=
  if host.head? = some 'v' then
    if isFutureAddress host then .ok () else .error .futureAddress
  else if isIpv4 host then .error .dottedInBrackets
  else if isIpv6 host then .ok ()
  else .error (.noAddress host)

/-- The check of the brackets in an authority. -/
def checkBrackets (authority : Text) : Except Fault Unit :=
  if authority.contains '[' != authority.contains ']' then .error .brackets
  else if !authority.contains '[' then .ok ()
  else
    let part := hostPart authority
    if '[' ∈ part then
      let behind := after ']' (after '[' part)
      if before '[' part ≠ [] ∨ (behind ≠ [] ∧ behind.head? ≠ some ':') then .error .brackets
      else checkBracketedHost (rawHost authority)
    else checkBracketedHost (rawHost authority)

/-! ## Split -/

/-- Whether a character is dropped from the front of a URL. -/
def isLeadingNoise (char : Char) : Bool :=
  char.toNat ≤ 0x20

/-- Whether a character is dropped wherever it stands in a URL. -/
def isInnerNoise (char : Char) : Bool :=
  char == '\t' || char == '\r' || char == '\n'

/-- The text that is split. -/
def cleaned (text : Text) : Text :=
  (text.dropWhile isLeadingNoise).filter (!isInnerNoise ·)

/-- Whether a character may stand in a scheme. -/
def isSchemeChar (char : Char) : Bool :=
  char.isAlphanum || char == '+' || char == '-' || char == '.'

/-- Whether a text is a scheme: a letter, then letters, digits, plus, minus and dot. -/
def isScheme (text : Text) : Bool :=
  (text.head?.map Char.isAlpha).getD false && text.all isSchemeChar

/-- The scheme in small letters, and the text behind its colon. -/
def splitScheme (text : Text) : Text × Text :=
  if text.contains ':' && isScheme (before ':' text) then
    (lowerAscii (before ':' text), after ':' text)
  else ([], text)

/-- Whether a character ends the authority. -/
def endsAuthority (char : Char) : Bool :=
  char == '/' || char == '?' || char == '#'

/-- The authority behind two slashes, and the text behind it. -/
def splitAuthority : Text → Text × Text
  | '/' :: '/' :: rest => (rest.takeWhile (!endsAuthority ·), rest.dropWhile (!endsAuthority ·))
  | text => ([], text)

/-- A text in the five parts of a URL. -/
def split (text : Text) : Except Fault Url :=
  let (scheme, rest) := splitScheme (cleaned text)
  let (authority, rest) := splitAuthority rest
  match checkBrackets authority with
  | .error fault => .error fault
  | .ok () =>
    if authority.any hidesDelimiter then .error (.hiddenDelimiter authority)
    else
      let hierarchy := before '#' rest
      .ok {
        scheme, authority
        path := before '?' hierarchy
        query := after '?' hierarchy
        fragment := after '#' rest }

/-! ## Join -/

/-- The schemes whose URLs are written with an authority, be it an empty one. -/
def hierarchicalSchemes : List Text :=
  ["ftp", "http", "gopher", "nntp", "telnet", "imap", "wais", "file", "mms", "https", "shttp",
    "snews", "prospero", "rtsp", "rtspu", "rsync", "svn", "svn+ssh", "sftp", "nfs", "git",
    "git+ssh", "ws", "wss"].map String.toList

/-- A mark and a part, or nothing when the part is empty. -/
def marked (mark : Char) (part : Text) : Text :=
  if part.isEmpty then [] else mark :: part

/-- The authority and the path of a joined URL. -/
def joinedHierarchy (url : Url) : Text :=
  if !url.authority.isEmpty ||
      (hierarchicalSchemes.contains url.scheme && !"//".toList.isPrefixOf url.path) then
    let slash := if url.path.isEmpty || url.path.head? == some '/' then [] else ['/']
    '/' :: '/' :: url.authority ++ slash ++ url.path
  else url.path

/-- The parts of a URL as one text. -/
def join (url : Url) : Text :=
  let scheme := if url.scheme.isEmpty then [] else url.scheme ++ [':']
  scheme ++ url.joinedHierarchy ++ marked '?' url.query ++ marked '#' url.fragment

/-- An authority of a host and a port; a host with a colon is put in brackets. -/
def authorityOf (host : Text) (port : Option Nat) : Text :=
  let host := if host.contains ':' then '[' :: host ++ [']'] else host
  match port with
  | some number => host ++ ':' :: ofNat number
  | none => host

end Url

end SignOnGate
