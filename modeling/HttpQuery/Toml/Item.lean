/-! # TOML items

What stands under a key of a TOML document. Values that nobody asks for later are kept only as far
as it matters that they are there. A table knows how it came about: an *implicit* table was opened
on the way to another one, and a *dotted* one by a dotted key.

* `TomlTable.descend`: change the table at the end of a path, opening the tables on the way. -/

namespace HttpQuery

/-- **What stands under a key.** -/
inductive TomlItem where
  | string (s : String)
  | integer (n : Int)
  | float
  | boolean
  /-- A date, a time or both, in their canonical form. -/
  | datetime (text : String)
  | array (items : List TomlItem)
  /-- A table in braces; it is complete where it ends. -/
  | inline (entries : List (String × TomlItem))
  | table (implicit dotted : Bool) (entries : List (String × TomlItem))
  /-- The tables of a repeated header, in order. -/
  | tables (elements : List (List (String × TomlItem)))

/-- **A table that may still grow.** -/
structure TomlTable where
  implicit : Bool := false
  dotted : Bool := false
  entries : List (String × TomlItem) := []

namespace TomlTable

/-- The item of a table. -/
def item (t : TomlTable) : TomlItem := .table t.implicit t.dotted t.entries

/-- The item under a key. -/
def find? (t : TomlTable) (key : String) : Option TomlItem := t.entries.lookup key

/-- Write an item under a key; the place of an earlier one is kept. -/
def put (t : TomlTable) (key : String) (item : TomlItem) : TomlTable :=
  if t.entries.any (·.1 == key) then
    { t with entries := t.entries.map fun e => if e.1 == key then (key, item) else e }
  else { t with entries := t.entries ++ [(key, item)] }

/-- Take away the item under a key. -/
def erase (t : TomlTable) (key : String) : TomlTable :=
  { t with entries := t.entries.filter (·.1 != key) }

/-- **Change the table at the end of a path.** A table that is missing on the way is opened as an
implicit one. A repeated header stands for its last table. A dotted key (`dotted`) does not pass
through a table that is not implicit, and nothing passes through a value. -/
def descend (dotted : Bool) (change : TomlTable → Option TomlTable) :
    List String → TomlTable → Option TomlTable
  | [], t => change t
  | key :: path, t =>
    match t.find? key with
    | none => do
      let child ← descend dotted change path { implicit := true, dotted := dotted }
      return t.put key child.item
    | some (.table implicit isDotted entries) =>
      if dotted && !implicit then none
      else do
        let child ← descend dotted change path ⟨implicit, isDotted, entries⟩
        return t.put key child.item
    | some (.tables elements) => do
      let last ← elements.getLast?
      let child ← descend dotted change path { entries := last }
      return t.put key (.tables (elements.dropLast ++ [child.entries]))
    | some _ => none

/-- The table at the end of a path, as a header passes through it; a missing table counts as an
empty one. -/
def at? : List String → TomlTable → Option TomlTable
  | [], t => some t
  | key :: path, t =>
    match t.find? key with
    | none => at? path {}
    | some (.table implicit dotted entries) => at? path ⟨implicit, dotted, entries⟩
    | some (.tables elements) => elements.getLast?.bind fun last => at? path { entries := last }
    | some _ => none

/-- Write a key and its value, the key perhaps with a path before it. A table opened by a dotted key
grows by dotted keys only, and any other table by plain keys only; no key is written twice. -/
def assign (path : List String) (key : String) (item : TomlItem) (t : TomlTable) :
    Option TomlTable :=
  t.descend true
    (fun table =>
      if table.dotted == path.isEmpty then none
      else if (table.find? key).isSome then none
      else some (table.put key item))
    path

end TomlTable

end HttpQuery
