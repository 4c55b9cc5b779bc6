import SignOnGate.Proofs.Url.Host

/-!
# Authorities up to case

An authority of a host and a port has brackets, a colon and digits around the host, and none of them
has case. So lowering the authority comes to lowering the host in it, and it does not matter whether
the host was lowered before. An authority that was read from a URL, and agrees up to case with the
one that is put together from its host and its port, is that one.
-/

namespace SignOnGate

namespace Url

open Text

variable {host authority text : Text} {port : Option Nat} {url : Url} {char : Char}

/-! ## Lowering an authority -/

theorem lower_brackets (host : Text) :
    lower ('[' :: (host ++ [']'])) = '[' :: (lower host ++ [']']) := by
  have opening : isSmall '[' = true := isSmall_of_isStill (by decide)
  have closing : isCaseless ']' = true := isCaseless_of_isStill (by decide)
  have noWord : inWordAfter false ['['] = false := by decide +kernel
  have front : lower (['['] ++ (host ++ [']'])) = ['['] ++ lowerFrom _ (host ++ [']']) :=
    lowerFrom_append_of_isSmall false (by simpa using opening) _
  rw [noWord, lowerFrom_append_of_isCaseless false host (by simpa using closing)] at front
  exact front

/-- A host as it stands in an authority: in brackets when it has a colon. -/
def standing (host : Text) : Text :=
  if ':' ∈ host then '[' :: (host ++ [']']) else host

theorem authorityOf_eq_standing (host : Text) (port : Option Nat) :
    authorityOf host port = standing host ++ marked ':' ((port.map ofNat).getD []) := by
  by_cases colon : ':' ∈ host
  · simp [standing, authorityOf_of_colon, colon]
  · simp [standing, authorityOf_eq, colon]

/-- A host and its small form look the same in small letters. -/
theorem lower_standing_lowerHost (host : Text) :
    lower (standing (lowerHost host)) = lower (standing host) := by
  have still : isStill ':' = true := by decide
  have colon_iff : ':' ∈ lowerHost host ↔ ':' ∈ host :=
    ⟨mem_of_mem_lowerHost (isUnreached_of_isStill still),
      mem_lowerHost_of_isSmall (isSmall_of_isStill still)⟩
  by_cases colon : ':' ∈ host
  · rw [standing, standing, if_pos colon, if_pos (colon_iff.mpr colon), lower_brackets,
      lower_brackets, lower_lowerHost]
  · rw [standing, standing, if_neg colon, if_neg (mt colon_iff.mp colon), lower_lowerHost]

theorem lower_authorityOf (host : Text) (port : Option Nat) :
    lower (authorityOf host port) =
      lower (standing host) ++ marked ':' ((port.map ofNat).getD []) := by
  rw [authorityOf_eq_standing]
  apply lowerFrom_append_of_isCaseless
  intro char member
  rcases mem_marked member with rfl | digit
  · exact isCaseless_of_isStill (by decide)
  · exact isCaseless_of_isStill (isStill_of_isDigit (isDigit_of_mem_port digit))

/-- Lowering an authority does not show whether its host was lowered before. -/
theorem lower_authorityOf_lowerHost (host : Text) (port : Option Nat) :
    lower (authorityOf (lowerHost host) port) = lower (authorityOf host port) := by
  rw [lower_authorityOf, lower_authorityOf, lower_standing_lowerHost]

/-! ## Authorities that were read -/

theorem isDigit_of_mem_rawPort (port_eq : url.port? = .ok port) :
    ∀ char ∈ rawPort url.authority, char.isDigit = true := by
  intro char member
  by_contra notDigit
  exact not_readPort_of_mem member (by simpa using notDigit) port_eq

/-- An accepted authority without user information is the host, in brackets or not, and a port. -/
theorem exists_authority_eq (part : hostPart authority = authority)
    (checked : checkBrackets authority = .ok ()) :
    ∃ behind, (behind = [] ∨ behind = ':' :: rawPort authority) ∧
      authority = (if '[' ∈ authority then '[' :: (rawHost authority ++ [']'])
        else rawHost authority) ++ behind := by
  by_cases opening : '[' ∈ authority
  · rcases brackets_of_opening (by rwa [part]) checked with ⟨closing, placed, follows, -⟩
    rw [part] at placed follows
    have parts := before_append_after opening
    rw [placed, List.nil_append] at parts
    have closingBehind : ']' ∈ after '[' authority := by
      rw [← parts] at closing
      simpa using closing
    have host_eq : rawHost authority = before ']' (after '[' authority) := by
      simp [rawHost, part, opening]
    have port_eq : rawPort authority = after ':' (after ']' (after '[' authority)) := by
      simp [rawPort, part, opening]
    refine ⟨after ']' (after '[' authority), follows.imp_right ?_, ?_⟩
    · intro isHead
      rw [port_eq]
      exact (cons_after_of_head isHead).symm
    · rw [if_pos opening, host_eq]
      conv_lhs => rw [← parts, ← before_append_after closingBehind]
      simp
  · have host_eq : rawHost authority = before ':' authority := by simp [rawHost, part, opening]
    have port_eq : rawPort authority = after ':' authority := by simp [rawPort, part, opening]
    rw [if_neg opening, host_eq, port_eq]
    by_cases colon : ':' ∈ authority
    · exact ⟨_, Or.inr rfl, (before_append_after colon).symm⟩
    · refine ⟨[], Or.inl rfl, ?_⟩
      rw [before_of_not_mem colon, List.append_nil]

/-- An authority that is its host and port, up to case, has no user information. -/
theorem noUser_of_lower (sound : url.Sound)
    (same : lower url.authority = lower (authorityOf (rawHost url.authority) port)) :
    '@' ∉ url.authority := by
  have still : isStill '@' = true := by decide
  intro user
  have lowered : '@' ∈ lower url.authority :=
    mem_lowerFrom_of_isSmall (isSmall_of_isStill still) user
  rw [same] at lowered
  have put := mem_of_mem_lowerFrom (isUnreached_of_isStill still) lowered
  cases isInnerChar_of_mem_authorityOf port sound.isInnerChar_of_mem_rawHost '@' put

/-- Brackets stand around the host of an authority exactly when the host has a colon. -/
theorem standing_of_lower (part : hostPart authority = authority)
    (checked : checkBrackets authority = .ok ()) (host_ne_nil : rawHost authority ≠ [])
    (same : lower authority = lower (authorityOf (rawHost authority) port)) :
    (if '[' ∈ authority then '[' :: (rawHost authority ++ [']']) else rawHost authority) =
      standing (rawHost authority) := by
  by_cases opening : '[' ∈ authority
  · have still : isStill '[' = true := by decide
    have isHead := head_of_checkBrackets part opening checked
    have colon : ':' ∈ rawHost authority := by
      -- A host without a colon is put at the front, and no host starts with a bracket.
      by_contra noColon
      apply head_rawHost_ne_bracket checked
      have lowered := head_lowerFrom_of_isSmall false (isSmall_of_isStill still) isHead
      rw [← lower, same] at lowered
      have stood := head_of_head_lowerFrom (isUnreached_of_isStill still) lowered
      rwa [authorityOf_eq noColon, List.head?_append_of_ne_nil _ host_ne_nil] at stood
    rw [standing, if_pos opening, if_pos colon]
  · have noColon : ':' ∉ rawHost authority := by
      simp only [rawHost, part, if_neg opening]
      exact not_mem_before ':' _
    rw [standing, if_neg opening, if_neg noColon]

/-- An authority that agrees up to case with the one made of its host and its port is that one. -/
theorem eq_authorityOf_of_lower (sound : url.Sound) (port_eq : url.port? = .ok port)
    (host_ne_nil : rawHost url.authority ≠ [])
    (same : lower url.authority = lower (authorityOf (rawHost url.authority) port)) :
    url.authority = authorityOf (rawHost url.authority) port := by
  have part : hostPart url.authority = url.authority :=
    afterLast_of_not_mem (noUser_of_lower sound same)
  rcases exists_authority_eq part sound.brackets with ⟨behind, number, whole⟩
  rw [standing_of_lower part sound.brackets host_ne_nil same] at whole
  have caseless : ∀ char ∈ behind, isCaseless char = true := by
    intro char member
    rcases number with rfl | rfl
    · cases member
    · rcases List.mem_cons.mp member with rfl | digit
      · exact isCaseless_of_isStill (by decide)
      · exact isCaseless_of_isStill (isStill_of_isDigit (isDigit_of_mem_rawPort port_eq char digit))
  -- The two are put together from the same host, and lowering keeps what stands behind it.
  have lowered : lower url.authority = lower (standing (rawHost url.authority)) ++ behind := by
    conv_lhs => rw [whole]
    exact lowerFrom_append_of_isCaseless false _ caseless
  rw [lowered, lower_authorityOf, List.append_cancel_left_eq] at same
  rw [authorityOf_eq_standing, ← same]
  exact whole

end Url

end SignOnGate
