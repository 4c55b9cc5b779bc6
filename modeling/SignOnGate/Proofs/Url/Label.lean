import SignOnGate.Proofs.Url.Host

/-!
# Labels that are hung behind a host

A label is put behind a dot and the first part of a host that was lowered before. Lowering the new
host leaves the first part alone. The label it lowers, unless it has become part of a zone; and then
only a sigma that ends a word can come out differently than in the label alone.
-/

namespace SignOnGate

namespace Url

open Text

variable {first label : Text} {char : Char} {inWord : Bool}

/-! ## First parts -/

/-- The part of a lowered host in front of its last dot is small up to a percent sign. -/
theorem isSmall_of_mem_beforeLast (raw : Text)
    (member : char ∈ before '%' (beforeLast '.' (lowerHost raw))) : isSmall char = true := by
  by_cases dot : '.' ∈ lowerHost raw
  · have inFront := mem_before_append member ('.' :: afterLast '.' (lowerHost raw))
    rw [beforeLast_append_afterLast dot, before_lowerHost] at inFront
    exact isSmall_of_mem_lowerFrom inFront
  · rw [beforeLast_of_not_mem dot] at member
    cases member

/-- A part of a lowered host that a label can be hung behind. -/
structure IsHostFront (first : Text) : Prop where
  nonempty : first ≠ []
  inner : ∀ char ∈ first, isInnerChar char = true
  small : ∀ char ∈ before '%' first, isSmall char = true
  noBracket : first.head? ≠ some '['

/-- What a host has in front of its last dot may be the front of another host. -/
theorem Absolute.isHostFront_beforeLast (absolute : Absolute) (sound : absolute.url.Sound)
    (nonempty : beforeLast '.' absolute.host ≠ []) :
    IsHostFront (beforeLast '.' absolute.host) := by
  refine ⟨nonempty, ?_, ?_, ?_⟩
  · intro char member
    exact absolute.isInnerChar_of_mem_host sound char (mem_of_mem_beforeLast member)
  · rw [absolute.host_eq]
    intro char member
    exact isSmall_of_mem_beforeLast _ member
  · have dot : '.' ∈ absolute.host := by
      by_contra noDot
      exact nonempty (beforeLast_of_not_mem noDot)
    have isHead := absolute.head_host_ne_bracket sound
    rwa [← beforeLast_append_afterLast dot, List.head?_append_of_ne_nil _ nonempty] at isHead

theorem IsHostFront.inner_hung (front : IsHostFront first)
    (inner : ∀ char ∈ label, isInnerChar char = true) :
    ∀ char ∈ first ++ '.' :: label, isInnerChar char = true := by
  intro char member
  rcases List.mem_append.mp member with inFirst | behind
  · exact front.inner char inFirst
  · rcases List.mem_cons.mp behind with rfl | inLabel
    · decide
    · exact inner char inLabel

theorem IsHostFront.noBracket_hung (front : IsHostFront first) (label : Text) :
    (first ++ '.' :: label).head? ≠ some '[' := by
  rw [List.head?_append_of_ne_nil _ front.nonempty]
  exact front.noBracket

/-! ## Labels -/

/-- A label as it is read from a host, behind a first part and a dot. -/
def hungLabel (first label : Text) : Text :=
  if '%' ∈ first then label
  else lowerFrom (inWordAfter false first) (before '%' label) ++ label.dropWhile (· != '%')

theorem inWordAfter_append_dot (inWord : Bool) (text : Text) :
    inWordAfter inWord (text ++ ['.']) = inWordAfter inWord text := by
  have skipped : isCaseIgnorable '.' = true := by decide +kernel
  simp [inWordAfter, skipped]

/-- Lowering a host changes nothing but the label that was hung behind it. -/
theorem lowerHost_hung (front : IsHostFront first) (label : Text) :
    lowerHost (first ++ '.' :: label) = first ++ '.' :: hungLabel first label := by
  by_cases percent : '%' ∈ first
  · have beforeZone : before '%' (first ++ '.' :: label) = before '%' first :=
      before_append_of_mem_left percent _
    have whole := before_append_dropWhile '%' first
    have zone : (first ++ '.' :: label).dropWhile (· != '%') =
        first.dropWhile (· != '%') ++ '.' :: label := by
      apply dropWhile_of_append
      rw [beforeZone, ← List.append_assoc, whole]
    rw [lowerHost, beforeZone, zone, lower, lowerFrom_of_isSmall false front.small,
      ← List.append_assoc, whole, hungLabel, if_pos percent]
  · have smallDot : ∀ char ∈ first ++ ['.'], isSmall char = true := by
      intro char member
      rcases List.mem_append.mp member with inFirst | isDot
      · exact front.small char (by rwa [before_of_not_mem percent])
      · rw [List.mem_singleton.mp isDot]
        exact isSmall_of_isStill (by decide)
    have noPercent : '%' ∉ first ++ ['.'] := by simp [percent]
    have noSigma : 'Σ' ∉ first ++ ['.'] := fun sigma => (isSmall_iff.mp (smallDot 'Σ' sigma)).1 rfl
    have lowered := lowerHost_append noPercent noSigma label
    rw [flatMap_lowerChar_of_isSmall smallDot, inWordAfter_append_dot, lowerHostFrom] at lowered
    rw [hungLabel, if_neg percent]
    simpa using lowered

theorem not_mem_hungLabel (noDot : '.' ∉ label) : '.' ∉ hungLabel first label := by
  intro member
  apply noDot
  rw [hungLabel] at member
  split at member
  · exact member
  · rcases List.mem_append.mp member with lowered | zone
    · exact mem_of_mem_before (mem_of_mem_lowerFrom (isUnreached_of_isStill (by decide)) lowered)
    · exact List.dropWhile_subset _ zone

theorem lower_hungLabel (noPercent : '%' ∉ first) (label : Text) :
    lower (hungLabel first label) =
      lowerFrom (inWordAfter false first) (before '%' label) ++
        lower (label.dropWhile (· != '%')) := by
  rw [hungLabel, if_neg noPercent, lower,
    lowerFrom_append_of_isSmall false fun char => isSmall_of_mem_lowerFrom, lowerFrom_zone]

/-- The label is read as it was, up to case, unless a sigma comes to stand at the end of a word. -/
theorem sameIgnoringCase_hungLabel_iff (first label : Text) :
    sameIgnoringCase (hungLabel first label) label = true ↔
      ('%' ∉ first → inWordAfter false first = true →
        startsFinalSigma (before '%' label) = false) := by
  rw [sameIgnoringCase, beq_iff_eq]
  by_cases percent : '%' ∈ first
  · simp [hungLabel, percent]
  · have cut : lower label = lower (before '%' label) ++ lower (label.dropWhile (· != '%')) :=
      lowerFrom_cut false label
    rw [lower_hungLabel percent, cut, List.append_cancel_right_eq, lowerFrom_eq_lower_iff]
    exact ⟨fun holds _ => holds, fun holds => holds percent⟩

theorem length_lower_hungLabel (first label : Text) :
    (lower (hungLabel first label)).length = (lower label).length := by
  by_cases percent : '%' ∈ first
  · rw [hungLabel, if_pos percent]
  · have cut : lower label = lower (before '%' label) ++ lower (label.dropWhile (· != '%')) :=
      lowerFrom_cut false label
    rw [lower_hungLabel percent, cut, List.length_append, List.length_append]
    simp only [lower, length_lowerFrom]

theorem hungLabel_ne_nil (first : Text) (label_ne_nil : label ≠ []) :
    hungLabel first label ≠ [] := by
  rw [hungLabel]
  split
  · exact label_ne_nil
  · exact lowerHostFrom_ne_nil _ label_ne_nil

/-- A host that was accepted with a label behind its first part can stand, and is read that way. -/
theorem host_of_authority {absolute : Absolute} {port : Option Nat} (front : IsHostFront first)
    (inner : ∀ char ∈ label, isInnerChar char = true)
    (authority_eq : absolute.url.authority = authorityOf (first ++ '.' :: label) port)
    (checked : checkBrackets absolute.url.authority = .ok ()) :
    CanStand (first ++ '.' :: label) ∧ absolute.host = first ++ '.' :: hungLabel first label := by
  have innerHost := front.inner_hung inner
  have stands := canStand_of_checkBrackets innerHost (front.noBracket_hung label) authority_eq
    checked absolute.port?_eq
  refine ⟨stands, ?_⟩
  rw [absolute.host_eq, authority_eq, (reads_of_canStand port stands innerHost).2.1,
    lowerHost_hung front]

end Url

end SignOnGate
