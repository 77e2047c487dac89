/-! # Blanks and fields

A text is cut into *fields*: the maximal runs of characters that are not blank. A blank is one of
the 25 characters with the Unicode property `White_Space`; the blank characters themselves are
dropped.

* `leadingField`: the field that a text starts with (empty before a blank), and the fields after it.
* `fields`: all fields of a text, in order. -/

namespace HttpQuery.Text

/-- **The characters with the property `White_Space`.** -/
def isBlank (c : Char) : Bool :=
  let n := c.toNat
  (0x9 ≤ n && n ≤ 0xD) || n == 0x20 || n == 0x85 || n == 0xA0 || n == 0x1680 ||
    (0x2000 ≤ n && n ≤ 0x200A) || n == 0x2028 || n == 0x2029 || n == 0x202F || n == 0x205F ||
    n == 0x3000

/-- Put a field in front of others, unless it is empty. -/
def consField (field : List Char) (rest : List (List Char)) : List (List Char) :=
  match field with
  | [] => rest
  | c :: cs => (c :: cs) :: rest

/-- The field at the very start of a text, empty if the text starts with a blank, and the fields
after it. -/
def leadingField : List Char → List Char × List (List Char)
  | [] => ([], [])
  | c :: cs =>
    if isBlank c then ([], consField (leadingField cs).1 (leadingField cs).2)
    else (c :: (leadingField cs).1, (leadingField cs).2)

/-- **The fields of a text**: its maximal runs of characters that are not blank. -/
def fields (text : List Char) : List (List Char) :=
  consField (leadingField text).1 (leadingField text).2

@[simp] theorem fields_nil : fields [] = [] := rfl

/-- A blank at the front changes nothing. -/
theorem fields_cons_of_isBlank {c : Char} (hc : isBlank c = true) (cs : List Char) :
    fields (c :: cs) = fields cs := by
  simp [fields, leadingField, hc, consField]

end HttpQuery.Text
