import SignOnGate.Proofs.Text.Lower
import SignOnGate.Proofs.Url.Split

/-!
# Hosts and ports in plain authorities

Reading the host and the port of a plain authority and putting them together again gives a plain
authority, from which the same host and the same port are read. User information is lost on the
way, and the port loses its leading zeros.
-/

namespace SignOnGate

namespace Url

open Text

variable {url : Url}

/-! ## Reading -/

/-- A character of a host outside brackets. -/
def isHostChar (char : Char) : Bool :=
  isPlainChar char && char != ':' && char != '@'

theorem isHostChar_iff {char : Char} :
    isHostChar char = true ↔ isPlainChar char = true ∧ char ≠ ':' ∧ char ≠ '@' := by
  simp [isHostChar, and_assoc]

theorem isHostChar_of_isLower {char : Char} (small : char.isLower = true) :
    isHostChar char = true :=
  forall_ascii (fun char => char.isLower = true → isHostChar char = true) (by decide +kernel)
    (isAscii_of_isLower small) small

/-- The host of a plain authority has characters of hosts only. -/
theorem isHostChar_of_mem_rawHost {authority : Text}
    (plain : ∀ char ∈ authority, isPlainChar char = true) :
    ∀ char ∈ rawHost authority, isHostChar char = true := by
  have noOpening : '[' ∉ hostPart authority := by
    intro member
    exact absurd (plain '[' (mem_of_mem_afterLast member)) (by decide)
  intro char member
  simp only [rawHost, if_neg noOpening] at member
  have inHostPart := mem_of_mem_before member
  refine isHostChar_iff.mpr ⟨plain char (mem_of_mem_afterLast inHostPart), ?_, ?_⟩
  · rintro rfl
    exact not_mem_before ':' _ member
  · rintro rfl
    exact not_mem_afterLast '@' authority inHostPart

theorem isHostChar_of_mem_lowerHost {host : Text} (plain : ∀ char ∈ host, isHostChar char = true) :
    ∀ char ∈ lowerHost host, isHostChar char = true := by
  have plainFront (char : Char) (member : char ∈ before '%' host) : isHostChar char = true :=
    plain char (mem_of_mem_before member)
  intro char member
  rcases List.mem_append.mp member with front | zone
  · refine forall_mem_lower (fun _ => isHostChar_of_isLower) ?_ plainFront char front
    intro char member
    exact (isPlainChar_iff.mp (isHostChar_iff.mp (plainFront char member)).1).1
  · exact plain char (List.dropWhile_subset _ zone)

/-- A host in small letters behind another text, in a word or not. -/
def lowerHostFrom (inWord : Bool) (host : Text) : Text :=
  lowerFrom inWord (before '%' host) ++ host.dropWhile (· != '%')

theorem lowerHostFrom_ne_nil {host : Text} (inWord : Bool) (host_ne_nil : host ≠ []) :
    lowerHostFrom inWord host ≠ [] := by
  intro nothing
  rcases List.append_eq_nil_iff.mp nothing with ⟨noFront, noZone⟩
  apply host_ne_nil
  rw [← before_append_dropWhile '%' host, noZone, List.append_nil]
  by_contra nonempty
  exact lowerFrom_ne_nil inWord nonempty noFront

theorem lowerHost_ne_nil {host : Text} (host_ne_nil : host ≠ []) : lowerHost host ≠ [] :=
  lowerHostFrom_ne_nil false host_ne_nil

/-- A port that is read is within the range of ports. -/
theorem le_of_readPort {port : Text} {number : Nat} (read : readPort port = .ok number) :
    number ≤ 65535 := by
  simp only [readPort] at read
  split at read
  · cases read
  · split at read
    · cases read
    · split at read
      · cases read
      · cases read
        omega

/-- A written port is read back. -/
theorem readPort_ofNat {number : Nat} (bound : number ≤ 65535) :
    readPort (ofNat number) = .ok number := by
  have digits : (ofNat number).all Char.isDigit = true := by
    rw [List.all_eq_true]
    intro char
    exact isDigit_of_mem_ofNat
  have short : (ofNat number).length ≤ 5 :=
    (Nat.length_toDigits_le_iff (by decide) (by decide)).mpr (by omega)
  have underLimit : ¬digitLimit < (ofNat number).length := by
    rw [digitLimit]
    omega
  have inRange : ¬65535 < number := by omega
  simp [readPort, digits, underLimit, inRange]

theorem le_of_port? {number : Nat} (port : url.port? = .ok (some number)) : number ≤ 65535 := by
  rw [port?] at port
  split at port
  · cases port
  · cases read : readPort (rawPort url.authority) with
    | error fault =>
        rw [read] at port
        cases port
    | ok other =>
        rw [read] at port
        cases port
        exact le_of_readPort read

/-! ## Putting together -/

section AuthorityOf

variable {host : Text} {port : Option Nat}

theorem authorityOf_eq (noColon : ':' ∉ host) :
    authorityOf host port = host ++ marked ':' ((port.map ofNat).getD []) := by
  cases port with
  | none => simp [authorityOf, noColon, marked]
  | some number => simp [authorityOf, noColon, marked, ofNat_ne_nil]

theorem noColon_of_host (plain : ∀ char ∈ host, isHostChar char = true) : ':' ∉ host := by
  intro member
  exact absurd (plain ':' member) (by decide)

theorem authorityOf_ne_nil (host_ne_nil : host ≠ [])
    (plain : ∀ char ∈ host, isHostChar char = true) : authorityOf host port ≠ [] := by
  rw [authorityOf_eq (noColon_of_host plain)]
  simp [host_ne_nil]

theorem isPlainChar_of_mem_authorityOf (plain : ∀ char ∈ host, isHostChar char = true) :
    ∀ char ∈ authorityOf host port, isPlainChar char = true := by
  intro char member
  rw [authorityOf_eq (noColon_of_host plain)] at member
  rcases List.mem_append.mp member with inHost | inPort
  · exact (isHostChar_iff.mp (plain char inHost)).1
  · rcases mem_marked inPort with rfl | digit
    · decide
    · cases port with
      | none => cases digit
      | some number => exact isPlainChar_of_isDigit (isDigit_of_mem_ofNat digit)

/--
Of an authority that is put together from a plain host and a port, nothing is user information.
-/
theorem hostPart_authorityOf (plain : ∀ char ∈ host, isHostChar char = true) :
    hostPart (authorityOf host port) = host ++ marked ':' ((port.map ofNat).getD []) := by
  rw [authorityOf_eq (noColon_of_host plain)]
  apply afterLast_of_not_mem
  intro member
  rcases List.mem_append.mp member with inHost | inPort
  · exact absurd (plain '@' inHost) (by decide)
  · rcases mem_marked inPort with same | digit
    · cases same
    · cases port with
      | none => cases digit
      | some number => exact absurd (isDigit_of_mem_ofNat digit) (by decide)

theorem noBracket_authorityOf (plain : ∀ char ∈ host, isHostChar char = true) :
    '[' ∉ hostPart (authorityOf host port) := by
  intro member
  exact absurd (isPlainChar_of_mem_authorityOf plain '[' (mem_of_mem_afterLast member)) (by decide)

theorem rawHost_authorityOf (plain : ∀ char ∈ host, isHostChar char = true) :
    rawHost (authorityOf host port) = host := by
  simp only [rawHost, if_neg (noBracket_authorityOf plain)]
  rw [hostPart_authorityOf plain, before_append_marked _ (noColon_of_host plain)]

theorem rawPort_authorityOf (plain : ∀ char ∈ host, isHostChar char = true) :
    rawPort (authorityOf host port) = (port.map ofNat).getD [] := by
  simp only [rawPort, if_neg (noBracket_authorityOf plain)]
  rw [hostPart_authorityOf plain, after_append_marked _ (noColon_of_host plain)]

end AuthorityOf

end Url

end SignOnGate
