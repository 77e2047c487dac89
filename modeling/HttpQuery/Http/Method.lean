/-! # Request methods

The five methods a query can select. A request without a selection uses `GET`. -/

namespace HttpQuery

/-- **A request method.** -/
inductive Method where
  | get
  | post
  | put
  | patch
  | delete
deriving DecidableEq, Repr

namespace Method

instance : Inhabited Method := ⟨.get⟩

/-- The name of a method on the wire. -/
def name : Method → String
  | .get => "GET"
  | .post => "POST"
  | .put => "PUT"
  | .patch => "PATCH"
  | .delete => "DELETE"

end Method

end HttpQuery
