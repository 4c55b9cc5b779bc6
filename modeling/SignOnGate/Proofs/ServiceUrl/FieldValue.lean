import SignOnGate.Proofs.Request
import SignOnGate.Proofs.ServiceUrl
import SignOnGate.Proofs.Url.Marks
import SignOnGate.Proofs.Url.Quiet
import SignOnGate.Protocol

/-!
# URLs that differ in the value of one field

What stands around a field of a URL settles everything but the value: the parts of the split URL,
the other parameters, and, when fields of that name are left out, the whole service URL. Stripping
the text does not change this, since the field ends in front of a mark or at the end of the text.
-/

namespace SignOnGate

open Text Url

theorem Protocol.isUnreserved_of_mem_artifactParameter (protocol : Protocol) :
    ∀ char ∈ protocol.artifactParameter, Percent.isUnreserved char = true := by
  apply List.all_eq_true.mp
  cases protocol <;> decide

/-- What stands around a field in the text of a URL. -/
structure FieldFrame where
  /-- The text in front of the question mark. -/
  front : Text
  /-- The fields in front, with their ampersands. -/
  earlier : Text
  /-- The fields behind, with their ampersands, and the fragment with its hash. -/
  later : Text
  front_noQuery : '?' ∉ front
  front_noFragment : '#' ∉ front
  earlier_noFragment : '#' ∉ earlier
  earlier_ends : ∀ char ∈ earlier.getLast?, char = '&'
  later_starts : ∀ char ∈ later.head?, char = '&' ∨ char = '#'

namespace FieldFrame

/-- A plain name and a value that make up one field of a query. -/
structure IsField (name value : Text) : Prop where
  plain : ∀ char ∈ name, Percent.isUnreserved char = true
  value_noField : '&' ∉ value
  value_noFragment : '#' ∉ value

variable (frame : FieldFrame) {name value other : Text}

/-- The text of the URL with a field inside its frame. -/
def url (name value : Text) : Text :=
  frame.front ++ '?' :: (frame.earlier ++ (name ++ '=' :: value ++ frame.later))

theorem IsField.not_mem_name (isField : IsField name value) {mark : Char}
    (reserved : Percent.isUnreserved mark = false) : mark ∉ name := by
  intro member
  rw [isField.plain mark member] at reserved
  cases reserved

theorem IsField.quieted_name (isField : IsField name value) : quieted name = name := by
  apply quieted_of_quiet
  intro char member
  exact isInnerNoise_of_isUnreserved (isField.plain char member)

/-! ## Splitting -/

/-- The fields behind, as they are split off. -/
def fieldsBehind : Text :=
  before '#' (quieted frame.later)

theorem head_fieldsBehind : ∀ char ∈ frame.fieldsBehind.head?, char = '&' := by
  intro char isHead
  rw [fieldsBehind] at isHead
  cases shape : frame.later with
  | nil =>
      rw [shape] at isHead
      cases isHead
  | cons mark rest =>
      rw [shape] at isHead
      rcases frame.later_starts mark (by rw [shape]; rfl) with rfl | rfl
      · cases isHead
        rfl
      · cases isHead

theorem getLast_quieted_earlier : ∀ char ∈ (quieted frame.earlier).getLast?, char = '&' := by
  intro char isLast
  rcases List.eq_nil_or_concat' frame.earlier with shape | ⟨first, mark, shape⟩
  · rw [shape] at isLast
    cases isLast
  · have isMark : mark = '&' := frame.earlier_ends mark (by simp [shape])
    have quietMark : quieted ['&'] = ['&'] := rfl
    rw [shape, isMark, quieted_append, quietMark, List.getLast?_concat] at isLast
    cases isLast
    rfl

/-- The query that is split off. -/
def query (name value : Text) : Text :=
  quieted frame.earlier ++ (name ++ '=' :: quieted value ++ frame.fieldsBehind)

/-- The value of a field shows in the query of the split URL, and nowhere else. -/
theorem split_url (isField : IsField name value) :
    split (frame.url name value) = (split frame.front).map fun url =>
      { url with
        query := frame.query name value, fragment := after '#' (quieted frame.later) } := by
  have nameFree : '#' ∉ name := isField.not_mem_name (by decide)
  have free : '#' ∉ quieted (frame.earlier ++ (name ++ '=' :: value)) := by
    intro member
    have inParts := mem_of_mem_quieted member
    simp [frame.earlier_noFragment, nameFree, isField.value_noFragment] at inParts
  have quietParts : quieted (frame.earlier ++ (name ++ '=' :: value)) =
      quieted frame.earlier ++ (name ++ '=' :: quieted value) := by
    have quietEquals : quieted ('=' :: value) = '=' :: quieted value := rfl
    rw [quieted_append, quieted_append, isField.quieted_name, quietEquals]
  rw [url, split_append_query frame.front_noQuery frame.front_noFragment, ← List.append_assoc,
    quieted_append, before_append_of_not_mem free, after_append_of_not_mem free, quietParts,
    List.append_assoc]
  rfl

theorem fields_query (isField : IsField name value) :
    Query.fields (frame.query name value) =
      Query.fields (quieted frame.earlier) ++
        (name ++ '=' :: quieted value) :: Query.fields frame.fieldsBehind := by
  apply Query.fields_around frame.getLast_quieted_earlier frame.head_fieldsBehind (by simp)
  have nameFree : '&' ∉ name := isField.not_mem_name (by decide)
  have valueFree : '&' ∉ quieted value := fun member =>
    isField.value_noField (mem_of_mem_quieted member)
  simp [nameFree, valueFree]

/-- Without the fields of its name, the query does not depend on the value. -/
theorem without_query (isField : IsField name value) :
    Query.without name (frame.query name value) =
      joined ['&'] ((Query.fields (quieted frame.earlier) ++ Query.fields frame.fieldsBehind).filter
        (before '=' · ≠ name)) := by
  have left : before '=' (name ++ '=' :: quieted value) = name :=
    before_append_of_mem '=' _ _ (isField.not_mem_name (by decide))
  rw [Query.without, frame.fields_query isField]
  simp [left]

/-- The parameter of the name is the first one, in front of the field or in the field. -/
theorem find?_parse_query (isField : IsField name value) :
    ((Query.parse (frame.query name value)).find? (·.1 = name)).map Prod.snd =
      some ((((Query.parse (quieted frame.earlier)).find? (·.1 = name)).map Prod.snd).getD
        (Query.decodePart (quieted value))) := by
  have free : '=' ∉ name := isField.not_mem_name (by decide)
  have field : Query.decodeField (name ++ '=' :: quieted value) =
      (name, Query.decodePart (quieted value)) := by
    rw [Query.decodeField, before_append_of_mem _ _ _ free, after_append_of_mem _ _ _ free,
      Query.decodePart_of_isUnreserved isField.plain]
  rw [Query.parse, frame.fields_query isField, List.map_append, List.map_cons, field,
    List.find?_append, ← Query.parse]
  cases (Query.parse (quieted frame.earlier)).find? (·.1 = name) <;> simp

/-! ## Stripping -/

/-- Stripping leaves a field in a frame, the same for all values. -/
theorem exists_strip (frame : FieldFrame) : ∃ stripped : FieldFrame, ∀ name value,
    IsField name value →
      ∃ kept, IsField name kept ∧ strip (frame.url name value) = stripped.url name kept := by
  have noQuery : '?' ∉ stripFront frame.front := fun member =>
    frame.front_noQuery (List.dropWhile_subset _ member)
  have noFragment : '#' ∉ stripFront frame.front := fun member =>
    frame.front_noFragment (List.dropWhile_subset _ member)
  have questionMark : isBlank '?' = false := by decide
  cases shape : frame.later with
  | nil =>
      -- The value stands at the end, and loses its blanks there.
      refine ⟨⟨stripFront frame.front, frame.earlier, [], noQuery, noFragment,
        frame.earlier_noFragment, frame.earlier_ends, nofun⟩, ?_⟩
      intro name value isField
      have equals : isBlank '=' = false := by decide
      refine ⟨stripEnd value, ⟨isField.plain, ?_, ?_⟩, ?_⟩
      · exact fun member => isField.value_noField (mem_of_mem_stripEnd member)
      · exact fun member => isField.value_noFragment (mem_of_mem_stripEnd member)
      · rw [strip, url, url, shape, stripFront_append_cons _ questionMark,
          stripEnd_append_cons _ questionMark, List.append_nil, List.append_nil,
          ← List.append_assoc, stripEnd_append_cons _ equals, List.append_assoc]
  | cons mark rest =>
      have isMark := frame.later_starts mark (by rw [shape]; rfl)
      have solid : isBlank mark = false := by rcases isMark with rfl | rfl <;> rfl
      refine ⟨⟨stripFront frame.front, frame.earlier, mark :: stripEnd rest, noQuery, noFragment,
        frame.earlier_noFragment, frame.earlier_ends, ?_⟩, ?_⟩
      · intro char isHead
        cases isHead
        exact isMark
      · intro name value isField
        refine ⟨value, isField, ?_⟩
        rw [strip, url, url, shape, stripFront_append_cons _ questionMark,
          stripEnd_append_cons _ questionMark, ← List.append_assoc, stripEnd_append_cons _ solid,
          List.append_assoc]

/-! ## Service URLs -/

variable {serverName : Option Text} {serviceUrl : Text}

/-- With another value, the URL is the same but for its query, and the other fields are the same. -/
theorem parse_url_eq_ok (isField : IsField name value) (isOther : IsField name other)
    {absolute : Absolute} (parsed : Absolute.parse (frame.url name value) = .ok absolute) :
    ∃ absoluteOther, Absolute.parse (frame.url name other) = .ok absoluteOther ∧
      absoluteOther.url = { absolute.url with query := absoluteOther.url.query } ∧
      Query.without name absoluteOther.url.query = Query.without name absolute.url.query := by
  rcases frame.exists_strip with ⟨stripped, strips⟩
  rcases strips name value isField with ⟨kept, isKept, strip_value⟩
  rcases strips name other isOther with ⟨keptOther, isKeptOther, strip_other⟩
  have split_value := (Absolute.parse_eq_ok parsed).2
  rw [strip_value, stripped.split_url isKept] at split_value
  cases split_front : split stripped.front with
  | error fault =>
      rw [split_front] at split_value
      cases split_value
  | ok parts =>
      rw [split_front] at split_value
      have url_eq : absolute.url = { parts with
          query := stripped.query name kept
          fragment := after '#' (quieted stripped.later) } := (Except.ok.inj split_value).symm
      -- Host and port are read off the authority, where the value has no part.
      let absoluteOther : Absolute := {
        url := { absolute.url with query := stripped.query name keptOther }
        host := absolute.host
        port := absolute.port
        scheme_ne_nil := absolute.scheme_ne_nil
        hostname?_eq := absolute.hostname?_eq
        port?_eq := absolute.port?_eq }
      have notBlank : isBlankText (frame.url name other) = false := by
        rw [isBlankText, List.all_eq_false]
        exact ⟨'?', by simp [url], by decide⟩
      have split_other : split (strip (frame.url name other)) = .ok absoluteOther.url := by
        rw [strip_other, stripped.split_url isKeptOther, split_front]
        simp only [absoluteOther, url_eq]
        rfl
      refine ⟨absoluteOther, Absolute.parse_of_split notBlank split_other, rfl, ?_⟩
      rw [url_eq, stripped.without_query isKept]
      exact stripped.without_query isKeptOther

/-- The service URL does not depend on the value of the field that is left out. -/
theorem ofText_url_eq_ok (isField : IsField name value) (isOther : IsField name other)
    (built : ServiceUrl.ofText (frame.url name value) name serverName = .ok serviceUrl) :
    ServiceUrl.ofText (frame.url name other) name serverName = .ok serviceUrl := by
  cases parsed : Absolute.parse (frame.url name value) with
  | error rejection =>
      rw [ServiceUrl.ofText, parsed] at built
      cases built
  | ok absolute =>
      rcases frame.parse_url_eq_ok isField isOther parsed with
        ⟨absoluteOther, parsedOther, url_eq, sameQuery⟩
      have sameUrl : ServiceUrl.ofUrl absoluteOther.url name serverName =
          ServiceUrl.ofUrl absolute.url name serverName := by
        rw [ServiceUrl.ofUrl, ServiceUrl.ofUrl, sameQuery, url_eq]
        rfl
      rw [ServiceUrl.ofText, parsed] at built
      rw [ServiceUrl.ofText, parsedOther, ← built]
      exact congrArg Except.ok sameUrl

/-- The service URL, as far as there is one, does not depend on the value of a field left out. -/
theorem toOption_ofText_url (isField : IsField name value) (isOther : IsField name other)
    (serverName : Option Text) :
    (ServiceUrl.ofText (frame.url name other) name serverName).toOption =
      (ServiceUrl.ofText (frame.url name value) name serverName).toOption := by
  cases built : ServiceUrl.ofText (frame.url name value) name serverName with
  | ok serviceUrl => rw [frame.ofText_url_eq_ok isField isOther built]
  | error rejection =>
      cases builtOther : ServiceUrl.ofText (frame.url name other) name serverName with
      | error rejectionOther => rfl
      | ok serviceUrl =>
          rw [frame.ofText_url_eq_ok isOther isField builtOther] at built
          cases built

/-! ## Parameters -/

/--
A request to the URL has no parameter of the name when the front of the URL cannot be split; else it
has the first one, in front of the field or in the field.
-/
theorem parameter?_url (isField : IsField name value) (headers : List (Text × Text)) :
    (Request.ofFields (frame.url name value) headers none).parameter? name =
      (split frame.front).toOption.map fun _ =>
        (((Query.parse (quieted frame.earlier)).find? (·.1 = name)).map Prod.snd).getD
          (Query.decodePart (quieted value)) := by
  have split_url := frame.split_url isField
  cases split_front : split frame.front with
  | error fault =>
      rw [split_front] at split_url
      rw [Request.parameter?_ofFields_of_error split_url]
      rfl
  | ok parts =>
      rw [split_front] at split_url
      rw [Request.parameter?_ofFields split_url, frame.find?_parse_query isField]
      rfl

end FieldFrame

end SignOnGate
