import SignOnGate.Proofs.Text.Lower
import SignOnGate.Proofs.Url.Absolute

/-!
# Hosts that are put into an authority

A host that was read from a URL may be anything: an address, a name, or a text with brackets,
percent signs and capital letters. When a host is put into an authority again, two things decide
what is read back: whether the authority passes the check of its brackets, and what lowering does to
the host. A host that was lowered before is not changed by it, and a label that is hung behind such
a host is changed in a known way.
-/

namespace SignOnGate

namespace Url

open Text

variable {url : Url} {host text front : Text} {char : Char}

/-! ## Characters of hosts -/

/-- A character that neither ends an authority nor its user information, and is never refused. -/
def isInnerChar (char : Char) : Bool :=
  char != '@' && !endsAuthority char && !isInnerNoise char && !hidesDelimiter char

theorem isInnerChar_iff : isInnerChar char = true ↔
    char ≠ '@' ∧ endsAuthority char = false ∧ isInnerNoise char = false ∧
      hidesDelimiter char = false := by
  simp [isInnerChar, and_assoc]

theorem isStill_of_hidesDelimiter (hides : hidesDelimiter char = true) : isStill char = true := by
  simp only [hidesDelimiter, List.contains_eq_mem, decide_eq_true_eq, List.mem_cons,
    List.not_mem_nil, or_false] at hides
  rw [isStill_iff]
  simp only [stillRanges, List.exists_mem_cons_iff]
  omega

/-- No character that is kept out of a host is a small form. -/
theorem isUnreached_of_outer (outer : isInnerChar char = false) : isUnreached char = true := by
  apply isUnreached_of_isStill
  by_cases hides : hidesDelimiter char = true
  · exact isStill_of_hidesDelimiter hides
  · apply List.all_eq_true.mp
      (by decide : ['@', '/', '?', '#', '\t', '\r', '\n'].all isStill = true)
    simp only [List.mem_cons, List.not_mem_nil, or_false]
    by_contra notMark
    push Not at notMark
    simp [isInnerChar, endsAuthority, isInnerNoise, hides, notMark] at outer

theorem isInnerChar_of_mem_lowerHost (inner : ∀ char ∈ host, isInnerChar char = true) :
    ∀ char ∈ lowerHost host, isInnerChar char = true := by
  intro char member
  rcases List.mem_append.mp member with front | zone
  · by_contra outer
    rw [Bool.not_eq_true] at outer
    have stood := mem_of_mem_lowerFrom (isUnreached_of_outer outer) front
    rw [inner char (mem_of_mem_before stood)] at outer
    cases outer
  · exact inner char (List.dropWhile_subset _ zone)

theorem mem_of_mem_rawHost {authority : Text} (member : char ∈ rawHost authority) :
    char ∈ hostPart authority := by
  simp only [rawHost] at member
  split at member
  · exact mem_of_mem_after (mem_of_mem_before member)
  · exact mem_of_mem_before member

theorem Sound.isInnerChar_of_mem_rawHost (sound : url.Sound) :
    ∀ char ∈ rawHost url.authority, isInnerChar char = true := by
  intro char member
  have inPart := mem_of_mem_rawHost member
  have inAuthority := mem_of_mem_afterLast inPart
  refine isInnerChar_iff.mpr ⟨?_, sound.authority_inside char inAuthority,
    sound.authority_quiet char inAuthority, ?_⟩
  · rintro rfl
    exact not_mem_afterLast '@' url.authority inPart
  · simpa using List.any_eq_false.mp sound.noHidden char inAuthority

theorem eq_of_hostname? (hostname : url.hostname? = some host) :
    host = lowerHost (rawHost url.authority) := by
  rw [hostname?] at hostname
  split at hostname
  · cases hostname
  · exact (Option.some.inj hostname).symm

theorem Absolute.host_eq (absolute : Absolute) :
    absolute.host = lowerHost (rawHost absolute.url.authority) :=
  eq_of_hostname? absolute.hostname?_eq

theorem Absolute.host_ne_nil (absolute : Absolute) : absolute.host ≠ [] := by
  have hostname := absolute.hostname?_eq
  rw [hostname?] at hostname
  split at hostname
  · cases hostname
  · rename_i nonempty
    rw [← Option.some.inj hostname]
    exact lowerHost_ne_nil (by simpa using nonempty)

theorem Absolute.isInnerChar_of_mem_host (absolute : Absolute) (sound : absolute.url.Sound) :
    ∀ char ∈ absolute.host, isInnerChar char = true := by
  rw [absolute.host_eq]
  exact isInnerChar_of_mem_lowerHost sound.isInnerChar_of_mem_rawHost

/-! ## A host does not start with a bracket -/

theorem exists_pieces_cons_bracket (mark : Char) (different : '[' ≠ mark) (rest : Text) :
    ∃ first others, pieces mark ('[' :: rest) = ('[' :: first) :: others := by
  rw [pieces, if_neg different]
  cases shape : pieces mark rest with
  | nil => exact absurd shape (pieces_ne_nil mark rest)
  | cons first others => exact ⟨first, others, rfl⟩

theorem isIpv4_cons_bracket (rest : Text) : isIpv4 ('[' :: rest) = false := by
  rcases exists_pieces_cons_bracket '.' (by decide) rest with ⟨first, others, shape⟩
  have notOctet : isOctet ('[' :: first) = false := by simp [isOctet]
  simp [isIpv4, shape, notOctet]

/-- A bracket at the front of an address stays at the front of its first group. -/
theorem exists_ipv6Groups_cons_bracket (rest : Text) :
    ∃ first others, ipv6Groups ('[' :: rest) = ('[' :: first) :: others := by
  rcases exists_pieces_cons_bracket ':' (by decide) rest with ⟨first, others, shape⟩
  cases others with
  | nil => exact ⟨first, [], by simp [ipv6Groups, shape, isIpv4_cons_bracket]⟩
  | cons second more =>
      simp only [ipv6Groups, shape]
      split
      · split
        · exact ⟨first, _, rfl⟩
        · exact ⟨first, _, rfl⟩
      · exact ⟨first, _, rfl⟩

theorem areIpv6Groups_cons_bracket (first : Text) (others : List Text) :
    areIpv6Groups (('[' :: first) :: others) = false := by
  have notHextet : isHextet ('[' :: first) = false := by
    have notDigit : isHexDigit '[' = false := by decide
    simp [isHextet, notDigit]
  rw [areIpv6Groups]
  split
  · simp [gapSide, notHextet]
  · simp [notHextet]

theorem isIpv6_cons_bracket (rest : Text) : isIpv6 ('[' :: rest) = false := by
  have front : before '%' ('[' :: rest) = '[' :: before '%' rest := by simp [before]
  rcases exists_ipv6Groups_cons_bracket (before '%' rest) with ⟨first, others, shape⟩
  rw [isIpv6, front, shape, areIpv6Groups_cons_bracket]
  rfl

theorem head_ne_bracket_of_check (checked : checkBracketedHost host = .ok ()) :
    host.head? ≠ some '[' := by
  intro isHead
  cases host with
  | nil => cases isHead
  | cons head rest =>
      cases isHead
      simp [checkBracketedHost, isIpv4_cons_bracket, isIpv6_cons_bracket] at checked

/-- What the check of brackets has established for a host in brackets. -/
theorem brackets_of_opening {authority : Text} (opening : '[' ∈ hostPart authority)
    (checked : checkBrackets authority = .ok ()) :
    ']' ∈ authority ∧ before '[' (hostPart authority) = [] ∧
      (after ']' (after '[' (hostPart authority)) = [] ∨
        (after ']' (after '[' (hostPart authority))).head? = some ':') ∧
      checkBracketedHost (rawHost authority) = .ok () := by
  have inAuthority : authority.contains '[' = true := by
    simpa using mem_of_mem_afterLast opening
  simp only [checkBrackets, inAuthority, if_pos opening] at checked
  split at checked
  · cases checked
  · rename_i closing
    simp only [Bool.not_true, Bool.false_eq_true, if_false] at checked
    split at checked
    · cases checked
    · rename_i placed
      push Not at placed
      refine ⟨?_, placed.1, ?_, checked⟩
      · simpa using closing
      · exact Classical.or_iff_not_imp_left.mpr placed.2

theorem head_rawHost_ne_bracket {authority : Text} (checked : checkBrackets authority = .ok ()) :
    (rawHost authority).head? ≠ some '[' := by
  by_cases bracket : '[' ∈ hostPart authority
  · exact head_ne_bracket_of_check (brackets_of_opening bracket checked).2.2.2
  · intro isHead
    exact bracket (mem_of_mem_rawHost (List.mem_of_head? isHead))

/--
A character that is no small form stands at the front of a lowered host only if it stood there.
-/
theorem head_of_head_lowerHost (unreached : isUnreached char = true)
    (isHead : (lowerHost host).head? = some char) : host.head? = some char := by
  rw [lowerHost] at isHead
  rw [← before_append_dropWhile '%' host]
  cases front : before '%' host with
  | nil =>
      rw [front] at isHead
      exact isHead
  | cons first others =>
      have nonempty : lower (first :: others) ≠ [] := lowerFrom_ne_nil false (by simp)
      rw [front, List.head?_append_of_ne_nil _ nonempty] at isHead
      have stood : (first :: others).head? = some char := head_of_head_lowerFrom unreached isHead
      exact stood

theorem Absolute.head_host_ne_bracket (absolute : Absolute) (sound : absolute.url.Sound) :
    absolute.host.head? ≠ some '[' := by
  rw [absolute.host_eq]
  intro isHead
  apply head_rawHost_ne_bracket sound.brackets
  exact head_of_head_lowerHost (isUnreached_of_isStill (by decide)) isHead

/-! ## Hosts that were lowered -/

theorem before_lowerHost (host : Text) : before '%' (lowerHost host) = lower (before '%' host) := by
  have noPercent : '%' ∉ lower (before '%' host) := fun percent =>
    not_mem_before '%' host (mem_of_mem_lowerFrom (isUnreached_of_isStill (by decide)) percent)
  rw [lowerHost, before_append_of_not_mem noPercent]
  rcases dropWhile_eq_nil_or_cons '%' host with none | ⟨zone, shape⟩
  · simp [none, before]
  · simp [shape, before]

theorem dropWhile_lowerHost (host : Text) :
    (lowerHost host).dropWhile (· != '%') = host.dropWhile (· != '%') := by
  apply dropWhile_of_append
  rw [before_lowerHost]
  rfl

theorem mem_of_mem_lowerHost (unreached : isUnreached char = true)
    (member : char ∈ lowerHost host) : char ∈ host := by
  rcases List.mem_append.mp member with front | zone
  · exact mem_of_mem_before (mem_of_mem_lowerFrom unreached front)
  · exact List.dropWhile_subset _ zone

theorem mem_lowerHost_of_isSmall (small : isSmall char = true) (member : char ∈ host) :
    char ∈ lowerHost host := by
  rw [← before_append_dropWhile '%' host] at member
  rcases List.mem_append.mp member with front | zone
  · exact List.mem_append_left _ (mem_lowerFrom_of_isSmall small front)
  · exact List.mem_append_right _ zone

/-- What stands in front of a zone and has no sigma is lowered character by character. -/
theorem lowerHost_append (noPercent : '%' ∉ front) (noSigma : 'Σ' ∉ front) (rest : Text) :
    lowerHost (front ++ rest) =
      front.flatMap lowerChar ++ lowerHostFrom (inWordAfter false front) rest := by
  have beforeZone : before '%' (front ++ rest) = front ++ before '%' rest :=
    before_append_of_not_mem noPercent rest
  have zone : (front ++ rest).dropWhile (· != '%') = rest.dropWhile (· != '%') := by
    apply dropWhile_of_append
    rw [beforeZone, List.append_assoc, before_append_dropWhile]
  rw [lowerHost, beforeZone, zone, lower, lowerFrom_append false noSigma, List.append_assoc,
    lowerHostFrom]

/-- What stands in front of a zone is lowered apart from it. -/
theorem lowerFrom_cut (inWord : Bool) (text : Text) :
    lowerFrom inWord text =
      lowerFrom inWord (before '%' text) ++ lower (text.dropWhile (· != '%')) := by
  conv_lhs => rw [← before_append_dropWhile '%' text]
  rcases dropWhile_eq_nil_or_cons '%' text with none | ⟨zone, shape⟩
  · rw [none]
    simp
  · have separates : isCaseIgnorable '%' = false ∧ isCased '%' = false := by decide +kernel
    rw [shape]
    exact lowerFrom_append_cons inWord _ zone separates.1 separates.2 (by decide)

theorem lowerFrom_zone (inWord : Bool) (text : Text) :
    lowerFrom inWord (text.dropWhile (· != '%')) = lower (text.dropWhile (· != '%')) := by
  rcases dropWhile_eq_nil_or_cons '%' text with none | ⟨zone, shape⟩
  · rw [none]
    rfl
  · have cut := lowerFrom_cut inWord ('%' :: zone)
    rw [shape, cut]
    simp [before, lowerFrom]

theorem lowerHost_lowerHost (host : Text) : lowerHost (lowerHost host) = lowerHost host := by
  have small : ∀ char ∈ lower (before '%' host), isSmall char = true := fun _ =>
    isSmall_of_mem_lowerFrom
  rw [lowerHost, before_lowerHost, dropWhile_lowerHost, lower, lowerFrom_of_isSmall false small]
  rfl

theorem Absolute.lowerHost_host (absolute : Absolute) :
    lowerHost absolute.host = absolute.host := by
  rw [absolute.host_eq, lowerHost_lowerHost]

theorem lower_lowerHost (host : Text) : lower (lowerHost host) = lower host := by
  have small : ∀ char ∈ lower (before '%' host), isSmall char = true := fun _ =>
    isSmall_of_mem_lowerFrom
  have cut : lower host = lower (before '%' host) ++ lower (host.dropWhile (· != '%')) :=
    lowerFrom_cut false host
  rw [cut, lowerHost]
  conv_lhs => rw [lower, lowerFrom_append_of_isSmall false small, lowerFrom_zone]

/-! ## Authorities of hosts -/

/--
A host that is read from an authority again: with a colon it is put in brackets, where it has to be
an address, and without one it stands alone and has no bracket.
-/
def CanStand (host : Text) : Prop :=
  if ':' ∈ host then ']' ∉ host ∧ checkBracketedHost host = .ok () else '[' ∉ host ∧ ']' ∉ host

section AuthorityOfHost

variable {port : Option Nat}

theorem authorityOf_of_colon (colon : ':' ∈ host) :
    authorityOf host port = '[' :: (host ++ ']' :: marked ':' ((port.map ofNat).getD [])) := by
  cases port with
  | none => simp [authorityOf, colon, marked]
  | some number => simp [authorityOf, colon, marked, ofNat_ne_nil]

theorem authorityOf_ne_nil_of_host (host_ne_nil : host ≠ []) : authorityOf host port ≠ [] := by
  by_cases colon : ':' ∈ host
  · simp [authorityOf_of_colon colon]
  · simp [authorityOf_eq colon, host_ne_nil]

theorem isInnerChar_of_isDigit (digit : char.isDigit = true) : isInnerChar char = true :=
  forall_ascii (fun char => char.isDigit = true → isInnerChar char = true) (by decide +kernel)
    (isAscii_of_isDigit digit) digit

theorem isDigit_of_mem_port (member : char ∈ (port.map ofNat).getD []) : char.isDigit = true := by
  cases port with
  | none => cases member
  | some number => exact isDigit_of_mem_ofNat member

/-- An authority that is put together from inner characters has no others. -/
theorem isInnerChar_of_mem_authorityOf (port : Option Nat)
    (inner : ∀ char ∈ host, isInnerChar char = true) :
    ∀ char ∈ authorityOf host port, isInnerChar char = true := by
  have innerPort : ∀ char ∈ marked ':' ((port.map ofNat).getD []), isInnerChar char = true := by
    intro char member
    rcases mem_marked member with rfl | digit
    · decide
    · exact isInnerChar_of_isDigit (isDigit_of_mem_port digit)
  intro char member
  by_cases colon : ':' ∈ host
  · rw [authorityOf_of_colon colon] at member
    rcases List.mem_cons.mp member with rfl | behind
    · decide
    · rcases List.mem_append.mp behind with inHost | closing
      · exact inner char inHost
      · rcases List.mem_cons.mp closing with rfl | inPort
        · decide
        · exact innerPort char inPort
  · rw [authorityOf_eq colon] at member
    rcases List.mem_append.mp member with inHost | inPort
    · exact inner char inHost
    · exact innerPort char inPort

/-- An authority ends in a blank only where a host stands alone and ends in it. -/
theorem authorityOf_eq_self_of_blank (isLast : char ∈ (authorityOf host port).getLast?)
    (blank : isBlank char = true) : ':' ∉ host ∧ authorityOf host port = host := by
  cases port with
  | some number =>
      have inPort : char ∈ (ofNat number).getLast? := by
        have split : authorityOf host (some number) =
            ((if host.contains ':' then '[' :: host ++ [']'] else host) ++ [':']) ++
              ofNat number := by
          simp [authorityOf]
        rwa [split, List.getLast?_append_of_ne_nil _ (ofNat_ne_nil number)] at isLast
      have plain := isPlainChar_of_isDigit (isDigit_of_mem_ofNat (List.mem_of_getLast? inPort))
      rw [(isPlainChar_iff.mp plain).2.1] at blank
      cases blank
  | none =>
      by_cases colon : ':' ∈ host
      · have isClosing : char = ']' := by
          have last : (authorityOf host none).getLast? = some ']' := by
            rw [authorityOf_of_colon colon]
            simp [marked, List.getLast?_cons]
          rw [last] at isLast
          exact (Option.mem_some_iff.mp isLast).symm
        rw [isClosing] at blank
        cases blank
      · refine ⟨colon, ?_⟩
        rw [authorityOf_eq colon]
        simp [marked]

theorem hostPart_of_inner (inner : ∀ char ∈ text, isInnerChar char = true) :
    hostPart text = text := by
  apply afterLast_of_not_mem
  intro member
  exact (isInnerChar_iff.mp (inner '@' member)).1 rfl

theorem not_mem_port (port : Option Nat) (char : Char) (reserved : char.isDigit = false)
    (different : char ≠ ':') : char ∉ marked ':' ((port.map ofNat).getD []) := by
  intro member
  rcases mem_marked member with same | digit
  · exact different same
  · rw [isDigit_of_mem_port digit] at reserved
    cases reserved

/-- In brackets, the host goes up to the first closing one. -/
theorem raw_of_colon (port : Option Nat) (inner : ∀ char ∈ host, isInnerChar char = true)
    (colon : ':' ∈ host) :
    let behind := after ']' (host ++ ']' :: marked ':' ((port.map ofNat).getD []))
    rawHost (authorityOf host port) =
        before ']' (host ++ ']' :: marked ':' ((port.map ofNat).getD [])) ∧
      rawPort (authorityOf host port) = after ':' behind ∧
      checkBrackets (authorityOf host port) =
        if behind ≠ [] ∧ behind.head? ≠ some ':' then .error .brackets
        else checkBracketedHost (rawHost (authorityOf host port)) := by
  have part := hostPart_of_inner (isInnerChar_of_mem_authorityOf port inner)
  rw [authorityOf_of_colon colon] at part ⊢
  simp [rawHost, rawPort, checkBrackets, part, after, before]

/-- What is read from a host without brackets and colons behind which a port was put. -/
theorem raw_of_not_colon (inner : ∀ char ∈ host, isInnerChar char = true) (noColon : ':' ∉ host)
    (noBracket : '[' ∉ host) :
    rawHost (authorityOf host port) = host ∧
      rawPort (authorityOf host port) = (port.map ofNat).getD [] ∧
      (checkBrackets (authorityOf host port) = .ok () ↔ ']' ∉ host) := by
  have part := hostPart_of_inner (isInnerChar_of_mem_authorityOf port inner)
  rw [authorityOf_eq noColon] at part ⊢
  have noOpening : '[' ∉ host ++ marked ':' ((port.map ofNat).getD []) := by
    simp [noBracket, not_mem_port port '[' (by decide) (by decide)]
  have closing : ']' ∈ host ++ marked ':' ((port.map ofNat).getD []) ↔ ']' ∈ host := by
    simp [not_mem_port port ']' (by decide) (by decide)]
  refine ⟨?_, ?_, ?_⟩
  · rw [rawHost, part, if_neg noOpening, before_append_marked _ noColon]
  · rw [rawPort, part, if_neg noOpening, after_append_marked _ noColon]
  · by_cases bracket : ']' ∈ host
    · simp [checkBrackets, noOpening, closing, bracket]
    · simp [checkBrackets, noOpening, closing, bracket]

/-- A host that can stand is read from its authority, and so is the port. -/
theorem reads_of_canStand (port : Option Nat) (stands : CanStand host)
    (inner : ∀ char ∈ host, isInnerChar char = true) :
    checkBrackets (authorityOf host port) = .ok () ∧ rawHost (authorityOf host port) = host ∧
      rawPort (authorityOf host port) = (port.map ofNat).getD [] := by
  rw [CanStand] at stands
  split at stands
  · rename_i colon
    rcases stands with ⟨noClosing, address⟩
    rcases raw_of_colon port inner colon with ⟨host_eq, port_eq, checked⟩
    have behind := after_append_of_mem ']' host (marked ':' ((port.map ofNat).getD [])) noClosing
    rw [before_append_of_mem _ _ _ noClosing] at host_eq
    rw [behind] at port_eq checked
    refine ⟨?_, host_eq, ?_⟩
    · rw [checked, host_eq, address, if_neg]
      rintro ⟨nonempty, notColon⟩
      simp only [marked] at nonempty notColon
      split at nonempty
      · exact nonempty rfl
      · rename_i isNumber
        exact notColon (by rw [if_neg isNumber]; rfl)
    · rw [port_eq]
      exact after_append_marked _ (List.not_mem_nil (a := ':'))
  · rename_i noColon
    rcases raw_of_not_colon inner noColon stands.1 with ⟨host_eq, port_eq, checked⟩
    exact ⟨checked.mpr stands.2, host_eq, port_eq⟩

/-- Sound parts stay sound with the authority of another host, if its brackets are accepted. -/
theorem Sound.rehosted (sound : url.Sound) (inner : ∀ char ∈ host, isInnerChar char = true)
    (host_ne_nil : host ≠ []) (checked : checkBrackets (authorityOf host port) = .ok ()) :
    { url with authority := authorityOf host port }.Sound := by
  have innerAuthority : ∀ char ∈ authorityOf host port, endsAuthority char = false ∧
      isInnerNoise char = false ∧ hidesDelimiter char = false := fun char member =>
    (isInnerChar_iff.mp (isInnerChar_of_mem_authorityOf port inner char member)).2
  refine ⟨sound.scheme, sound.scheme_small, authorityOf_ne_nil_of_host host_ne_nil,
    fun char member => (innerAuthority char member).1,
    fun char member => (innerAuthority char member).2.1, checked, ?_, sound.path_start,
    sound.path_noQuery, sound.path_noFragment, sound.path_quiet, sound.query_noFragment,
    sound.query_quiet⟩
  rw [List.any_eq_false]
  intro char member
  rw [(innerAuthority char member).2.2]
  decide

/-- Host and port are read from a new authority as they were put into it, but for case. -/
theorem reads_of_authority (authority_eq : url.authority = authorityOf host port)
    (stands : CanStand host) (inner : ∀ char ∈ host, isInnerChar char = true)
    (host_ne_nil : host ≠ []) (bound : ∀ number ∈ port, number ≤ 65535) :
    url.hostname? = some (lowerHost host) ∧ url.port? = .ok port := by
  rcases reads_of_canStand port stands inner with ⟨-, host_eq, port_eq⟩
  refine ⟨?_, ?_⟩
  · rw [hostname?, authority_eq, host_eq]
    simp [host_ne_nil]
  · rw [port?, authority_eq, port_eq]
    cases port with
    | none => rfl
    | some number => simp [ofNat_ne_nil, readPort_ofNat (bound number rfl), Except.map]

theorem Absolute.port_le (absolute : Absolute) : ∀ number ∈ absolute.port, number ≤ 65535 := by
  intro number isPort
  have port_eq : absolute.url.port? = .ok (some number) := by
    rw [absolute.port?_eq, Option.mem_def.mp isPort]
  exact le_of_port? port_eq

/-- A text with a character that is no digit is no port. -/
theorem not_readPort_of_mem {number : Text} (member : char ∈ number)
    (notDigit : char.isDigit = false)
    {read : Option Nat} :
    (if number.isEmpty then .ok none else (readPort number).map some) ≠ Except.ok read := by
  have notDigits : number.all Char.isDigit = false := by
    rw [List.all_eq_false]
    exact ⟨char, member, by simp [notDigit]⟩
  cases number with
  | nil => cases member
  | cons head rest => simp [readPort, notDigits, Except.map]

/-- An opening bracket outside user information stands at the front. -/
theorem head_of_checkBrackets {authority : Text} (part : hostPart authority = authority)
    (opening : '[' ∈ authority) (checked : checkBrackets authority = .ok ()) :
    authority.head? = some '[' := by
  have placed := (brackets_of_opening (by rwa [part]) checked).2.1
  have parts := before_append_after opening
  rw [part] at placed
  rw [placed] at parts
  rw [← parts]
  rfl

/-- A host whose authority is accepted can stand. -/
theorem canStand_of_checkBrackets (inner : ∀ char ∈ host, isInnerChar char = true)
    (notBracket : host.head? ≠ some '[') (authority_eq : url.authority = authorityOf host port)
    (checked : checkBrackets url.authority = .ok ()) {read : Option Nat}
    (port_eq : url.port? = .ok read) : CanStand host := by
  rw [authority_eq] at checked
  rw [port?, authority_eq] at port_eq
  rw [CanStand]
  split
  · rename_i colon
    rcases raw_of_colon port inner colon with ⟨host_eq, rawPort_eq, checks⟩
    rw [checks] at checked
    split at checked
    · cases checked
    · rename_i follows
      have noClosing : ']' ∉ host := by
        intro closing
        have behind :=
          after_append_of_mem_left closing (']' :: marked ':' ((port.map ofNat).getD []))
        rw [behind] at follows rawPort_eq
        -- The port would hold the last bracket, and be no number.
        cases shape : after ']' host ++ ']' :: marked ':' ((port.map ofNat).getD []) with
        | nil => simp at shape
        | cons head rest =>
            rw [shape] at follows rawPort_eq
            have isColon : head = ':' := by simpa using follows
            have inRest : ']' ∈ rest := by
              have member : ']' ∈ head :: rest := by simp [← shape]
              simpa [isColon] using member
            have isRest : after ':' (head :: rest) = rest := by simp [after, isColon]
            rw [rawPort_eq, isRest] at port_eq
            exact not_readPort_of_mem inRest (by decide) port_eq
      refine ⟨noClosing, ?_⟩
      rwa [host_eq, before_append_of_mem _ _ _ noClosing] at checked
  · rename_i noColon
    have noBracket : '[' ∉ host := by
      intro opening
      apply notBracket
      have part := hostPart_of_inner (isInnerChar_of_mem_authorityOf port inner)
      rw [authorityOf_eq noColon] at part checked
      have isHead := head_of_checkBrackets part (List.mem_append_left _ opening) checked
      cases host with
      | nil => cases opening
      | cons head rest => exact isHead
    exact ⟨noBracket, (raw_of_not_colon inner noColon noBracket).2.2.mp checked⟩

end AuthorityOfHost

end Url

end SignOnGate
