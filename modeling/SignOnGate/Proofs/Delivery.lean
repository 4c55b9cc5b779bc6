import SignOnGate.Delivery
import SignOnGate.Proofs.Text.Attribute
import SignOnGate.Proofs.Text.Json
import SignOnGate.Proofs.Text.Utf8

/-!
# What the documents of a delivery say

A document that is sent in place of a redirect carries the target whole, whatever the target looks
like: a reader of the format that the document is in gets it back character by character.
-/

namespace SignOnGate

namespace Delivery

variable {request : Request}

theorem isFacesRequest_of_parameter {value : Text}
    (given : request.parameter? facesParameter = some value) (nonempty : value ≠ []) :
    isFacesRequest request = true := by
  cases value with
  | nil => exact absurd rfl nonempty
  | cons head rest => simp [isFacesRequest, given]

theorem write_facesDocument (partly : isFacesRequest request = true) (status : Int)
    (response : Response) (target : Text) :
    (faces status).write request response target = .ok { response with
      status := 200
      mediaType := some "text/xml".toList
      body := Utf8.encode (facesDocument target) } := by
  rw [write, if_pos partly]

theorem write_scriptDocument (calling : isScriptRequest request = true) (status : Int)
    (response : Response) (target : Text) :
    (script status).write request response target = .ok { response with
      status := 401
      mediaType := some "application/json".toList
      body := Utf8.encode (scriptDocument target) } := by
  rw [write, if_pos calling]

/-! ## The document for a Faces page -/

/-- The document for a Faces page is a fixed frame around one attribute value, which carries the
target: nothing in it is markup or ends the value early, its ampersands all begin references, and it
is the target once these are resolved. -/
theorem faces_document_carries_target {value : Text}
    (given : request.parameter? facesParameter = some value) (nonempty : value ≠ []) (status : Int)
    (response : Response) (target : Text) :
    ∃ written quote content,
      (faces status).write request response target = .ok written ∧
      written.body = Utf8.encode
        ("<?xml version='1.0' encoding='UTF-8'?><partial-response><redirect url=".toList ++
          quote :: content ++ quote :: "></redirect></partial-response>".toList) ∧
      Attribute.Carries quote content target := by
  have partly := isFacesRequest_of_parameter given nonempty
  rcases Attribute.exists_carries target with ⟨quote, content, encoded, carries⟩
  have framed (front behind : Text) :
      front ++ Attribute.encode target ++ behind =
        front ++ quote :: content ++ quote :: behind := by
    simp [encoded]
  refine ⟨_, quote, content, write_facesDocument partly status response target, ?_, carries⟩
  exact congrArg Utf8.encode (framed _ _)

/-- A request that asks for a partial response by a parameter. -/
def facesRequest : Request :=
  .ofFields "http://app.example.org/page".toList [] (some [(facesParameter, "true".toList)])

/-- A target with quotes of both kinds, markup, and text that looks like a reference. -/
def markedTarget : Text :=
  "https://sso.example.org/?a=\"&b='&amp;<\t>&#10;\r\n".toList

/-- The partial document for a target that is full of markup. -/
theorem faces_document_carries_marked_target :
    ∃ written quote content,
      (faces 302).write facesRequest {} markedTarget = .ok written ∧
      written.body = Utf8.encode
        ("<?xml version='1.0' encoding='UTF-8'?><partial-response><redirect url=".toList ++
          quote :: content ++ quote :: "></redirect></partial-response>".toList) ∧
      Attribute.Carries quote content markedTarget := by
  have given : facesRequest.parameter? facesParameter = some "true".toList := by
    decide +kernel
  exact faces_document_carries_target given (by decide) 302 {} markedTarget

/-! ## The document for a script -/

theorem scriptDocument_eq (target : Text) :
    scriptDocument target =
      '\x7b' :: JsonString.encode "login_url".toList ++ ':' :: ' ' :: JsonString.encode target ++
        ['\x7d'] := by
  simp [scriptDocument]

/-- The document for a script is ASCII throughout. -/
theorem isAscii_of_mem_scriptDocument {target : Text} :
    ∀ char ∈ scriptDocument target, Text.isAscii char = true := by
  intro char member
  simp only [scriptDocument_eq, List.cons_append, List.mem_cons, List.mem_append, List.not_mem_nil,
    or_false] at member
  rcases member with rfl | (name | rfl | rfl | inTarget) | rfl
  · rfl
  · exact JsonString.isAscii_of_mem_encode char name
  · rfl
  · rfl
  · exact JsonString.isAscii_of_mem_encode char inTarget
  · rfl

/-- The document for a script is ASCII, and as JSON it is an object of one member, whose value is
the target. -/
theorem script_document_carries_target (calling : isScriptRequest request = true) (status : Int)
    (response : Response) (target : Text) :
    ∃ written,
      (script status).write request response target = .ok written ∧
      (∀ byte ∈ written.body, byte.toNat < 0x80) ∧
      ∃ document, Utf8.decodeStrict written.body = some document ∧
        Json.parse document = some (.object [("login_url".toList, .string target)]) := by
  refine ⟨_, write_scriptDocument calling status response target, ?_, scriptDocument target, ?_, ?_⟩
  · exact Utf8.lt_of_mem_encode_of_ascii isAscii_of_mem_scriptDocument
  · exact Utf8.decodeStrict_encode_of_ascii isAscii_of_mem_scriptDocument
  · rw [scriptDocument_eq]
    exact Json.parse_member _ target

/-- A request of a script, which names the media type of its answer in letters of both cases. -/
def scriptRequest : Request :=
  .ofFields "http://app.example.org/page".toList
    [("accept".toList, "application/JSON, */*".toList)] none

/-- A target with two astral characters, quotes, controls, and text that looks like an escape. -/
def astralTarget : Text :=
  [Char.ofNat 0x1F600, Char.ofNat 0x10FFFF] ++ "\\ud83d\"\\\\u0041\u0000\u007f/é".toList

/-- The script document for a target beyond the first plane of characters. -/
theorem script_document_carries_astral_target :
    ∃ written,
      (script 302).write scriptRequest {} astralTarget = .ok written ∧
      (∀ byte ∈ written.body, byte.toNat < 0x80) ∧
      ∃ document, Utf8.decodeStrict written.body = some document ∧
        Json.parse document = some (.object [("login_url".toList, .string astralTarget)]) := by
  have calling : isScriptRequest scriptRequest = true := by
    decide +kernel
  exact script_document_carries_target calling 302 {} astralTarget

end Delivery

end SignOnGate
