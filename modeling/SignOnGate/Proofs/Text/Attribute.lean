import Mathlib.Data.List.Infix
import SignOnGate.Text.Attribute

/-!
# Reading attribute values

A value is read back by putting the character that is meant in place of each reference. The reader
knows seven references and refuses everything else that begins like one. Every character stands in a
value either as it is or as one of these references, and what is shown for each of the two ways,
with any text behind, carries over to whole values.
-/

namespace SignOnGate

namespace Attribute

/-- The names of the references, each with the character that it stands for. -/
def references : List (Text × Char) :=
  [("amp".toList, '&'), ("lt".toList, '<'), ("gt".toList, '>'), ("quot".toList, '"'),
    ("#10".toList, '\n'), ("#13".toList, '\r'), ("#9".toList, '\t')]

/-- A reference by its name. -/
def reference (name : Text) : Text :=
  '&' :: name ++ [';']

/--
Puts characters in place of the references. The reader stands between characters, or inside a
reference of which the name has been read so far. None if a reference is unknown or does not end.
-/
def resolveFrom : Option Text → Text → Option Text
  | none, [] => some []
  | some _, [] => none
  | none, char :: rest =>
    if char = '&' then resolveFrom (some []) rest
    else (resolveFrom none rest).map (char :: ·)
  | some name, char :: rest =>
    if char = ';' then
      (references.lookup name).bind fun meant => (resolveFrom none rest).map (meant :: ·)
    else resolveFrom (some (name ++ [char])) rest

/-- The text that content stands for; none if a reference is unknown or does not end. -/
def resolve (content : Text) : Option Text :=
  resolveFrom none content

/-- The quotes that a value may be put in. -/
def quotes : List Char := ['"', '\'']

/-- The characters that stand in no value as they are. -/
def markup : List Char := ['&', '<', '>', '\r', '\n', '\t']

/-- How a character may stand in a value: as it is, or as a reference. -/
inductive StandsFor : Text → Char → Prop where
  | itself (char : Char) (plain : char ∉ markup) : StandsFor [char] char
  | byName (name : Text) (char : Char) (known : (name, char) ∈ references) :
      StandsFor (reference name) char

/-- A character begins a reference wherever it is an ampersand. -/
def Refers (content : Text) : Prop :=
  ∀ rest, '&' :: rest <:+ content →
    ∃ name char, (name, char) ∈ references ∧ reference name <+: '&' :: rest

/-- The content of a value between two quotes stands for a text. -/
structure Carries (quote : Char) (content text : Text) : Prop where
  quote_mem : quote ∈ quotes
  unmarked : ∀ mark ∈ ['<', '>', '\r', '\n', '\t', quote], mark ∉ content
  refers : Refers content
  resolve_eq : resolve content = some text

variable {spelled rest : Text} {char : Char}

/-! ## One character -/

theorem lookup_of_mem {name : Text} (known : (name, char) ∈ references) :
    references.lookup name = some char ∧ ';' ∉ name ∧ '&' ∉ name := by
  have each : ∀ entry ∈ references,
      references.lookup entry.1 = some entry.2 ∧ ';' ∉ entry.1 ∧ '&' ∉ entry.1 := by
    decide +kernel
  exact each (name, char) known

theorem not_mem_reference {name : Text} (known : (name, char) ∈ references) {mark : Char}
    (marks : mark ∈ ['<', '>', '\r', '\n', '\t', '"', '\'']) : mark ∉ reference name := by
  have each : references.all (fun entry =>
      ['<', '>', '\r', '\n', '\t', '"', '\''].all fun mark => mark ∉ reference entry.1) = true := by
    decide +kernel
  have free := List.all_eq_true.mp (List.all_eq_true.mp each (name, char) known) mark marks
  simpa using free

/-- Inside a reference, the name is read up to the semicolon and then looked up. -/
theorem resolveFrom_name {name : Text} (noEnd : ';' ∉ name) (front rest : Text) :
    resolveFrom (some front) (name ++ ';' :: rest) =
      (references.lookup (front ++ name)).bind fun meant => (resolve rest).map (meant :: ·) := by
  induction name generalizing front with
  | nil => simp [resolveFrom, resolve]
  | cons head tail ih =>
      have goesOn : head ≠ ';' := fun ends => noEnd (by simp [ends])
      have tailGoesOn : ';' ∉ tail := fun member => noEnd (List.mem_cons_of_mem _ member)
      rw [List.cons_append, resolveFrom, if_neg goesOn, ih tailGoesOn, List.append_assoc,
        List.singleton_append]

/-- A character is found again in front of any other content, however it is written. -/
theorem StandsFor.resolve_append (stands : StandsFor spelled char) (rest : Text) :
    resolve (spelled ++ rest) = (resolve rest).map (char :: ·) := by
  cases stands with
  | itself _ plain =>
      have noReference : char ≠ '&' := by
        rintro rfl
        exact plain (by simp [markup])
      simp [resolve, resolveFrom, noReference]
  | byName name _ known =>
      rcases lookup_of_mem known with ⟨found, noEnd, -⟩
      have read := resolveFrom_name noEnd [] rest
      rw [List.nil_append, found, Option.bind_some] at read
      simpa [reference, resolve, resolveFrom] using read

/-- No way to write a character has markup in it, apart from the ampersand. -/
theorem StandsFor.not_mem (stands : StandsFor spelled char) {mark : Char}
    (marks : mark ∈ ['<', '>', '\r', '\n', '\t']) : mark ∉ spelled := by
  cases stands with
  | itself _ plain =>
      intro member
      have same : mark = char := List.mem_singleton.mp member
      subst same
      exact plain (List.mem_cons_of_mem _ marks)
  | byName name _ known =>
      apply not_mem_reference known
      exact List.mem_append_left ['"', '\''] marks

theorem StandsFor.eq_of_mem (stands : StandsFor spelled char) {quote : Char}
    (quoting : quote ∈ quotes) (member : quote ∈ spelled) : char = quote := by
  cases stands with
  | itself _ plain => exact (List.mem_singleton.mp member).symm
  | byName name _ known =>
      have marks := List.mem_append_right ['<', '>', '\r', '\n', '\t'] quoting
      exact absurd member (not_mem_reference known marks)

theorem suffix_of_suffix_append {mark : Char} {front behind : Text} (free : mark ∉ front)
    (suffix : mark :: behind <:+ front ++ rest) : mark :: behind <:+ rest := by
  induction front with
  | nil => exact suffix
  | cons head tail ih =>
      rcases List.suffix_cons_iff.mp suffix with whole | within
      · have same : mark = head := (List.cons.inj whole).1
        exact absurd (same ▸ List.mem_cons_self) free
      · exact ih (fun member => free (List.mem_cons_of_mem _ member)) within

theorem StandsFor.refers_append (stands : StandsFor spelled char) (refers : Refers rest) :
    Refers (spelled ++ rest) := by
  intro behind suffix
  cases stands with
  | itself _ plain =>
      have noReference : '&' ∉ [char] := by
        intro member
        have same : '&' = char := List.mem_singleton.mp member
        exact plain (by simp [markup, ← same])
      exact refers behind (suffix_of_suffix_append noReference suffix)
  | byName name _ known =>
      -- only the first character of a reference is an ampersand
      rcases List.suffix_cons_iff.mp suffix with whole | within
      · exact ⟨name, char, known, rest, whole.symm⟩
      · have noReference : '&' ∉ name ++ [';'] := by
          simp [(lookup_of_mem known).2.2]
        exact refers behind (suffix_of_suffix_append noReference within)

/-! ## Whole values -/

/-- Characters that each stand for their own, none of them by a bare quote, carry a text. -/
theorem carries_flatMap {escape : Char → Text} {quote : Char} {text : Text}
    (quoting : quote ∈ quotes) (stands : ∀ char, StandsFor (escape char) char)
    (free : ∀ char ∈ text, quote ∉ escape char) : Carries quote (text.flatMap escape) text where
  quote_mem := quoting
  unmarked := by
    intro mark marks member
    rcases List.mem_flatMap.mp member with ⟨char, listed, inside⟩
    rcases List.mem_append.mp (show mark ∈ ['<', '>', '\r', '\n', '\t'] ++ [quote] from marks) with
      marks | isQuote
    · exact (stands char).not_mem marks inside
    · rw [List.mem_singleton.mp isQuote] at inside
      exact free char listed inside
  refers := by
    clear free
    induction text with
    | nil =>
        intro rest suffix
        cases List.suffix_nil.mp suffix
    | cons head tail ih => exact (stands head).refers_append ih
  resolve_eq := by
    clear free
    induction text with
    | nil => rfl
    | cons head tail ih => rw [List.flatMap_cons, (stands head).resolve_append, ih, Option.map_some]

/-- An escaped character stands for itself. -/
theorem standsFor_escapeChar (char : Char) : StandsFor (escapeChar char) char := by
  by_cases marked : char ∈ markup
  · simp only [markup, List.mem_cons, List.not_mem_nil, or_false] at marked
    rcases marked with rfl | rfl | rfl | rfl | rfl | rfl
    · exact .byName "amp".toList _ (by simp [references])
    · exact .byName "lt".toList _ (by simp [references])
    · exact .byName "gt".toList _ (by simp [references])
    · exact .byName "#13".toList _ (by simp [references])
    · exact .byName "#10".toList _ (by simp [references])
    · exact .byName "#9".toList _ (by simp [references])
  · have kept : escapeChar char = [char] := by
      simp only [markup, List.mem_cons, List.not_mem_nil, or_false, not_or] at marked
      simp [escapeChar, marked]
    rw [kept]
    exact .itself char marked

theorem standsFor_escapeQuoteChar (char : Char) : StandsFor (escapeQuoteChar char) char := by
  rw [escapeQuoteChar]
  split
  · rename_i isQuote
    subst isQuote
    exact .byName "quot".toList _ (by simp [references])
  · exact standsFor_escapeChar char

/-- Every text is carried by its value, whichever quotes it holds. -/
theorem exists_carries (text : Text) :
    ∃ quote content, encode text = quote :: content ++ [quote] ∧ Carries quote content text := by
  rw [encode]
  split
  · rename_i held
    refine ⟨'\'', _, rfl, carries_flatMap (by simp [quotes]) standsFor_escapeChar ?_⟩
    intro char listed member
    have same := (standsFor_escapeChar char).eq_of_mem (by simp [quotes]) member
    exact held.2 (same ▸ listed)
  · refine ⟨'"', _, rfl, carries_flatMap (by simp [quotes]) standsFor_escapeQuoteChar ?_⟩
    intro char listed member
    have same := (standsFor_escapeQuoteChar char).eq_of_mem (by simp [quotes]) member
    subst same
    exact absurd member (by decide +kernel)

/-! ## One replacement after another -/

/-- A text with a reference in place of each occurrence of a character. -/
def replaceAll (char : Char) (name text : Text) : Text :=
  text.flatMap fun other => if other = char then reference name else [other]

/-- The markup in the order in which it is replaced. References begin with an ampersand, so that
ampersands come first. -/
def replacements : List (Char × Text) :=
  [('&', "amp".toList), ('>', "gt".toList), ('<', "lt".toList), ('\n', "#10".toList),
    ('\r', "#13".toList), ('\t', "#9".toList)]

/-- A text in which one kind of markup is replaced after the other. -/
def replaceMarkup (text : Text) : Text :=
  replacements.foldl (fun written entry => replaceAll entry.1 entry.2 written) text

theorem replaceMarkup_append (first second : Text) :
    replaceMarkup (first ++ second) = replaceMarkup first ++ replaceMarkup second := by
  simp [replaceMarkup, replacements, replaceAll, List.flatMap_append]

/-- No replacement touches what an earlier one has written. -/
theorem replaceMarkup_singleton (char : Char) : replaceMarkup [char] = escapeChar char := by
  by_cases marked : char ∈ markup
  · simp only [markup, List.mem_cons, List.not_mem_nil, or_false] at marked
    rcases marked with rfl | rfl | rfl | rfl | rfl | rfl <;> decide +kernel
  · simp only [markup, List.mem_cons, List.not_mem_nil, or_false, not_or] at marked
    simp [replaceMarkup, replacements, replaceAll, escapeChar, marked]

theorem replaceMarkup_eq_flatMap (text : Text) : replaceMarkup text = text.flatMap escapeChar := by
  induction text with
  | nil => rfl
  | cons head tail ih =>
      rw [← List.singleton_append, replaceMarkup_append, replaceMarkup_singleton, ih]
      rfl

theorem mem_replaceMarkup_iff {quote : Char} (quoting : quote ∈ quotes) (text : Text) :
    quote ∈ replaceMarkup text ↔ quote ∈ text := by
  rw [replaceMarkup_eq_flatMap, List.mem_flatMap]
  constructor
  · rintro ⟨char, listed, member⟩
    rwa [← (standsFor_escapeChar char).eq_of_mem quoting member]
  · intro listed
    have kept : quotes.all (fun quote => quote ∈ escapeChar quote) = true := by decide
    exact ⟨quote, listed, by simpa using List.all_eq_true.mp kept quote quoting⟩

theorem replaceAll_of_not_mem {text : Text} (free : char ∉ text) (name : Text) :
    replaceAll char name text = text := by
  induction text with
  | nil => rfl
  | cons head tail ih =>
      simp only [List.mem_cons, not_or] at free
      have rest := ih free.2
      simp only [replaceAll] at rest ⊢
      simp [Ne.symm free.1, rest]

/-- Escaping each character, double quotes too, is replacing the quotes last. -/
theorem flatMap_escapeQuoteChar (text : Text) :
    text.flatMap escapeQuoteChar = replaceAll '"' "quot".toList (replaceMarkup text) := by
  rw [replaceMarkup_eq_flatMap, replaceAll, List.flatMap_assoc]
  congr 1
  funext char
  rw [escapeQuoteChar]
  split
  · rename_i isQuote
    subst isQuote
    rfl
  · rename_i notQuote
    have free : '"' ∉ escapeChar char := by
      intro member
      exact notQuote ((standsFor_escapeChar char).eq_of_mem (by simp [quotes]) member)
    exact (replaceAll_of_not_mem free _).symm

/-- A value comes about by one replacement after another. The quotes are chosen once the markup is
replaced, and those in the text are replaced only if it holds both. -/
theorem encode_eq_replaced (text : Text) :
    encode text =
      if '"' ∈ replaceMarkup text then
        if '\'' ∈ replaceMarkup text then
          '"' :: replaceAll '"' "quot".toList (replaceMarkup text) ++ ['"']
        else '\'' :: replaceMarkup text ++ ['\'']
      else '"' :: replaceMarkup text ++ ['"'] := by
  have doubles : '"' ∈ replaceMarkup text ↔ '"' ∈ text :=
    mem_replaceMarkup_iff (by simp [quotes]) text
  have singles : '\'' ∈ replaceMarkup text ↔ '\'' ∈ text :=
    mem_replaceMarkup_iff (by simp [quotes]) text
  rw [encode, flatMap_escapeQuoteChar, ← replaceMarkup_eq_flatMap]
  simp only [← doubles, ← singles]
  by_cases double : '"' ∈ replaceMarkup text
  · by_cases single : '\'' ∈ replaceMarkup text
    · simp [double, single]
    · simp [double, single]
  · simp [double, replaceAll_of_not_mem double]

end Attribute

end SignOnGate
