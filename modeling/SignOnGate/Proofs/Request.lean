import SignOnGate.Proofs.OrderedMap
import SignOnGate.Request

/-!
# Parameters of requests

A request that is made from a URL has the parameters in the query of that URL, each with its first
value. A URL that cannot be split gives no parameters.
-/

namespace SignOnGate

namespace Request

variable {url : Text} {parts : Url}

theorem parameter?_ofFields (split_url : Url.split url = .ok parts)
    (headers : List (Text × Text)) (name : Text) :
    (ofFields url headers none).parameter? name =
      ((Query.parse parts.query).find? (·.1 = name)).map Prod.snd := by
  have parameters : (ofFields url headers none).parameters =
      .ofFirst (Query.parse parts.query) := by
    simp [ofFields, parametersOf, split_url]
  rw [parameter?, parameters, OrderedMap.get?_ofFirst]

theorem parameter?_ofFields_of_error {fault : Url.Fault} (split_url : Url.split url = .error fault)
    (headers : List (Text × Text)) (name : Text) :
    (ofFields url headers none).parameter? name = none := by
  have parameters : (ofFields url headers none).parameters = .empty := by
    simp [ofFields, parametersOf, split_url]
  rw [parameter?, parameters, OrderedMap.get?_empty]

end Request

end SignOnGate
