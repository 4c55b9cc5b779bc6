import SignOnGate.Proofs.Text.Cut
import SignOnGate.Proofs.Text.Percent
import SignOnGate.Query

/-!
# Fields of queries

Joining pieces that are free of the mark is undone by cutting at it. Hence leaving out a field
leaves a row of fields that is read as it was left, and leaving the field out again changes nothing.
A field that is written with an encoded value is read as its name and that value.
-/

namespace SignOnGate

namespace Text

variable {mark char : Char} {text piece : Text} {parts : List Text}

theorem pieces_of_not_mem (free : mark ∉ text) : pieces mark text = [text] := by
  induction text with
  | nil => rfl
  | cons head rest ih =>
      rw [List.mem_cons, not_or] at free
      rw [pieces, if_neg (Ne.symm free.1), ih free.2]

/-- A mark parts the pieces in front of it from those behind it. -/
theorem pieces_append_cons (text rest : Text) :
    pieces mark (text ++ mark :: rest) = pieces mark text ++ pieces mark rest := by
  induction text with
  | nil => simp [pieces]
  | cons head tail ih =>
      rw [List.cons_append, pieces, pieces]
      split
      · rw [ih, List.cons_append]
      · rw [ih]
        cases shape : pieces mark tail with
        | nil => exact absurd shape (pieces_ne_nil mark tail)
        | cons first others => rfl

theorem pieces_append (rest : Text) (free : mark ∉ text) :
    pieces mark (text ++ mark :: rest) = text :: pieces mark rest := by
  rw [pieces_append_cons, pieces_of_not_mem free, List.singleton_append]

theorem joined_cons_cons (first second : Text) (rest : List Text) :
    joined [mark] (first :: second :: rest) = first ++ mark :: joined [mark] (second :: rest) := by
  simp [joined]

/-- Pieces that were joined at a mark are found again, if none has the mark in it. -/
theorem pieces_joined (nonempty : parts ≠ []) (free : ∀ part ∈ parts, mark ∉ part) :
    pieces mark (joined [mark] parts) = parts := by
  induction parts with
  | nil => exact absurd rfl nonempty
  | cons first others ih =>
      have freeFirst := free first List.mem_cons_self
      cases others with
      | nil => exact pieces_of_not_mem freeFirst
      | cons second rest =>
          have behind := ih (List.cons_ne_nil _ _) fun part member =>
            free part (List.mem_cons_of_mem first member)
          rw [joined_cons_cons, pieces_append _ freeFirst, behind]

/-- A piece is free of the mark, and made of characters of the text. -/
theorem of_mem_pieces (member : piece ∈ pieces mark text) :
    mark ∉ piece ∧ ∀ char ∈ piece, char ∈ text := by
  induction text generalizing piece with
  | nil =>
      rw [pieces, List.mem_singleton] at member
      simp [member]
  | cons head rest ih =>
      rw [pieces] at member
      split at member
      · rcases List.mem_cons.mp member with rfl | later
        · simp
        · refine ⟨(ih later).1, ?_⟩
          intro char inPiece
          exact List.mem_cons_of_mem head ((ih later).2 char inPiece)
      · rename_i different
        split at member
        · rename_i none_left
          exact absurd none_left (pieces_ne_nil mark rest)
        · rename_i first others shape
          rw [shape] at ih
          rcases List.mem_cons.mp member with rfl | later
          · rcases ih List.mem_cons_self with ⟨free, fromRest⟩
            refine ⟨by simp [free, Ne.symm different], ?_⟩
            intro char inPiece
            rcases List.mem_cons.mp inPiece with rfl | inFirst
            · exact List.mem_cons_self
            · exact List.mem_cons_of_mem head (fromRest char inFirst)
          · rcases ih (List.mem_cons_of_mem first later) with ⟨free, fromRest⟩
            refine ⟨free, ?_⟩
            intro char inPiece
            exact List.mem_cons_of_mem head (fromRest char inPiece)

theorem mem_joined (member : char ∈ joined [mark] parts) :
    char = mark ∨ ∃ part ∈ parts, char ∈ part := by
  induction parts with
  | nil => cases member
  | cons first others ih =>
      cases others with
      | nil => exact Or.inr ⟨first, List.mem_cons_self, member⟩
      | cons second rest =>
          rw [joined_cons_cons] at member
          rcases List.mem_append.mp member with inFirst | behind
          · exact Or.inr ⟨first, List.mem_cons_self, inFirst⟩
          · rcases List.mem_cons.mp behind with isMark | later
            · exact Or.inl isMark
            · rcases ih later with isMark | ⟨part, partMember, inPart⟩
              · exact Or.inl isMark
              · exact Or.inr ⟨part, List.mem_cons_of_mem first partMember, inPart⟩

/-- The pieces of a text, joined again, are the text. -/
theorem joined_pieces (mark : Char) (text : Text) : joined [mark] (pieces mark text) = text := by
  induction text with
  | nil => rfl
  | cons head rest ih =>
      rw [pieces]
      cases shape : pieces mark rest with
      | nil => exact absurd shape (pieces_ne_nil mark rest)
      | cons first others =>
          rw [shape] at ih
          split
          · rename_i isMark
            rw [joined_cons_cons, ih, isMark, List.nil_append]
          · cases others with
            | nil => simpa [joined] using ih
            | cons second more => simpa [joined] using ih

/-- A character of a text is the mark, or stands in one of the pieces. -/
theorem mem_pieces (mark : Char) (member : char ∈ text) :
    char = mark ∨ ∃ piece ∈ pieces mark text, char ∈ piece := by
  rw [← joined_pieces mark text] at member
  exact mem_joined member

/-- Cutting at a mark loses the marks and nothing else. -/
theorem flatten_pieces (mark : Char) (text : Text) :
    (pieces mark text).flatten = text.filter (· ≠ mark) := by
  induction text with
  | nil => rfl
  | cons head rest ih =>
      rw [pieces]
      by_cases isMark : head = mark
      · simpa [isMark] using ih
      · cases shape : pieces mark rest with
        | nil => exact absurd shape (pieces_ne_nil mark rest)
        | cons first others =>
            rw [shape] at ih
            simpa [isMark] using ih

end Text

namespace Query

open Text

theorem of_mem_fields {field query : Text} (member : field ∈ fields query) :
    field ≠ [] ∧ '&' ∉ field ∧ ∀ char ∈ field, char ∈ query := by
  rcases List.mem_filter.mp member with ⟨isPiece, nonempty⟩
  rcases of_mem_pieces isPiece with ⟨free, fromQuery⟩
  exact ⟨by simpa using nonempty, free, fromQuery⟩

@[simp]
theorem fields_nil : fields [] = [] := rfl

theorem flatten_fields (query : Text) : (fields query).flatten = query.filter (· ≠ '&') := by
  rw [fields, List.flatten_filter_not_isEmpty, flatten_pieces]

theorem fields_append (query rest : Text) :
    fields (query ++ '&' :: rest) = fields query ++ fields rest := by
  rw [fields, pieces_append_cons, List.filter_append]
  rfl

theorem parse_append (query rest : Text) :
    parse (query ++ '&' :: rest) = parse query ++ parse rest := by
  rw [parse, fields_append, List.map_append]
  rfl

/-- Fields that were joined are found again, if none is empty or has the mark in it. -/
theorem fields_joined {parts : List Text} (whole : ∀ part ∈ parts, part ≠ [] ∧ '&' ∉ part) :
    fields (joined ['&'] parts) = parts := by
  cases parts with
  | nil => rfl
  | cons first others =>
      rw [fields, pieces_joined (List.cons_ne_nil first others) fun part member =>
        (whole part member).2]
      apply List.filter_eq_self.mpr
      intro part member
      simpa using (whole part member).1

/-- The fields that are left are those of other names, as they were written. -/
theorem fields_without (name query : Text) :
    fields (without name query) = (fields query).filter (before '=' · ≠ name) := by
  apply fields_joined
  intro field member
  rcases of_mem_fields (List.mem_filter.mp member).1 with ⟨nonempty, free, -⟩
  exact ⟨nonempty, free⟩

@[simp]
theorem without_without (name query : Text) :
    without name (without name query) = without name query := by
  rw [without, fields_without, List.filter_filter]
  simp [without]

theorem mem_without {name query : Text} {char : Char} (member : char ∈ without name query) :
    char = '&' ∨ char ∈ query := by
  rcases mem_joined member with isMark | ⟨field, isField, inField⟩
  · exact Or.inl isMark
  · rcases of_mem_fields (List.mem_filter.mp isField).1 with ⟨-, -, fromQuery⟩
    exact Or.inr (fromQuery char inField)

/-! ## Fields with an encoded value -/

theorem fields_of_not_mem {field : Text} (nonempty : field ≠ []) (free : '&' ∉ field) :
    fields field = [field] := by
  simp [fields, pieces_of_not_mem free, nonempty]

section Own

variable {name value : Text} (nameFree : '&' ∉ name) (valueFree : '&' ∉ value)
  (noEquals : '=' ∉ name)

include nameFree valueFree noEquals

theorem filter_own :
    (fields (name ++ '=' :: value)).filter (before '=' · ≠ name) = [] := by
  have isOwn : before '=' (name ++ '=' :: value) = name := before_append_of_mem '=' _ _ noEquals
  rw [fields_of_not_mem (by simp) (by simp [nameFree, valueFree])]
  simp [isOwn]

theorem without_own : without name (name ++ '=' :: value) = [] := by
  rw [without, filter_own nameFree valueFree noEquals]
  rfl

theorem without_append_own (query : Text) :
    without name (query ++ '&' :: (name ++ '=' :: value)) = without name query := by
  rw [without, fields_append, List.filter_append, filter_own nameFree valueFree noEquals,
    List.append_nil]
  rfl

end Own

/-- A field between fields, with its ampersands on its neighbours. -/
theorem fields_around {earlier field later : Text}
    (ends : ∀ char ∈ earlier.getLast?, char = '&') (starts : ∀ char ∈ later.head?, char = '&')
    (nonempty : field ≠ []) (free : '&' ∉ field) :
    fields (earlier ++ (field ++ later)) = fields earlier ++ field :: fields later := by
  have behind : fields (field ++ later) = field :: fields later := by
    cases later with
    | nil => rw [List.append_nil, fields_of_not_mem nonempty free, fields_nil]
    | cons mark rest =>
        have start : fields ('&' :: rest) = fields rest := by
          rw [← List.nil_append ('&' :: rest), fields_append, fields_nil, List.nil_append]
        rw [starts mark rfl, fields_append, fields_of_not_mem nonempty free, start,
          List.singleton_append]
  rcases List.eq_nil_or_concat' earlier with rfl | ⟨first, mark, rfl⟩
  · exact behind
  · have isMark : mark = '&' := ends mark (by simp)
    subst isMark
    rw [List.append_assoc, List.singleton_append, fields_append, fields_append, fields_nil, behind,
      List.append_nil]

/-- Without a plus sign, decoding a part is undoing its escapes. -/
theorem decodePart_of_not_mem {part : Text} (free : '+' ∉ part) :
    decodePart part = Percent.decode part := by
  have same : part.map (fun char => if char = '+' then ' ' else char) = part := by
    have kept : ∀ char ∈ part, (if char = '+' then ' ' else char) = char := by
      intro char member
      rw [if_neg]
      rintro rfl
      exact free member
    rw [List.map_congr_left kept, List.map_id']
  rw [decodePart, same]

@[simp]
theorem decodePart_encode (text : Text) : decodePart (Percent.encode text) = text := by
  rw [decodePart_of_not_mem (Percent.not_mem_encode (by decide) (by decide) text),
    Percent.decode_encode]

theorem decodePart_of_isUnreserved {part : Text}
    (plain : ∀ char ∈ part, Percent.isUnreserved char = true) : decodePart part = part := by
  have decoded := decodePart_encode part
  rwa [Percent.encode_of_isUnreserved plain] at decoded

/-- Leaving out the fields that are written with a plain name loses no entry of another name. -/
theorem filter_parse_without {name : Text}
    (plain : ∀ char ∈ name, Percent.isUnreserved char = true) (query : Text) :
    (parse (without name query)).filter (·.1 ≠ name) = (parse query).filter (·.1 ≠ name) := by
  have writtenOtherwise (field : Text) (other : (decodeField field).1 ≠ name) :
      before '=' field ≠ name := by
    intro written
    apply other
    rw [decodeField, written, decodePart_of_isUnreserved plain]
  rw [parse, fields_without, parse, List.filter_map, List.filter_map, List.filter_filter]
  congr 1
  apply List.filter_congr
  intro field _
  by_cases other : (decodeField field).1 = name
  · simp [other]
  · simp [other, writtenOtherwise field other]

/-- A field with an encoded value is read as its name and that value. -/
theorem parse_field {name : Text} (plain : ∀ char ∈ name, Percent.isUnreserved char = true)
    (value : Text) : parse (name ++ '=' :: Percent.encode value) = [(name, value)] := by
  have noMark (mark : Char) (reserved : Percent.isUnreserved mark = false) : mark ∉ name := by
    intro member
    rw [plain mark member] at reserved
    cases reserved
  have free : '&' ∉ name ++ '=' :: Percent.encode value := by
    simp [noMark '&' (by decide),
      Percent.not_mem_encode (by decide : '&' ≠ '%') (by decide) value]
  have noEquals : '=' ∉ name := noMark '=' (by decide)
  rw [parse, fields_of_not_mem (by simp) free, List.map_singleton, decodeField,
    before_append_of_mem _ _ _ noEquals, after_append_of_mem _ _ _ noEquals,
    decodePart_of_isUnreserved plain, decodePart_encode]

end Query

end SignOnGate
