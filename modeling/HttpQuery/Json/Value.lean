import HttpQuery.Decimal.Binary64
import HttpQuery.KeyMap
/-! # JSON values

A number is an integer, if it was written as one and fits into 64 bits with or without a sign, or
else a binary floating-point number. The members of an object have an order; the objects that are
read from a text have theirs in the order of the keys, each key once. -/

namespace HttpQuery

/-- **A JSON number.** -/
inductive JsonNumber where
  | integer (n : Int)
  | real (x : Binary64)
deriving DecidableEq, Repr

/-- **A JSON value.** -/
inductive Json where
  | null
  | bool (b : Bool)
  | number (n : JsonNumber)
  | string (s : String)
  | array (items : List Json)
  | object (members : List (String × Json))
deriving Repr

namespace Json

instance : Inhabited Json := ⟨.null⟩

/-- The number of a natural number. -/
def natural (n : Nat) : Json := .number (.integer n)

/-- The number of a floating-point value; JSON has no infinities, `null` stands for them. -/
def real (x : Binary64) : Json := if x.isFinite then .number (.real x) else .null

/-- The object of a map, its members in the order of the keys. -/
def ofMap (map : KeyMap Json) : Json := .object map.toList

/-- The object of some members in the order of the keys; a later member replaces an earlier one of
the same key. -/
def sortedObject (members : List (String × Json)) : Json := ofMap (KeyMap.ofList members)

/-- The array of some texts. -/
def strings (texts : List String) : Json := .array (texts.map .string)

/-- The value, or `null` if there is none. -/
def orNull (value : Option Json) : Json := value.getD .null

end Json

end HttpQuery
