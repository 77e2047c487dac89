import HttpQuery.Config.Settings
import HttpQuery.Toml.Document
/-! # Settings from a file

The settings stand in the table `http` of a TOML document, or in an array in its place, which gives
them in order. Keys with other names are ignored, and a setting that is missing keeps its default; a
setting of another type is an error.

* `Settings.ofToml?`: the settings of a document. -/

namespace HttpQuery

namespace Settings

/-- The entries of an item that has any; a date counts as one entry. -/
def entriesOf : TomlItem → Option (List (String × TomlItem))
  | .inline entries => some entries
  | .table _ _ entries => some entries
  | .datetime text => some [("$__toml_private_datetime", .string text)]
  | _ => none

/-- The text of an item. -/
def text? : TomlItem → Option String
  | .string s => some s
  | _ => none

/-- The number of an item, which must not be negative. -/
def seconds? : TomlItem → Option Nat
  | .integer (.ofNat n) => some n
  | _ => none

/-- The texts of an item by their keys. -/
def texts? (item : TomlItem) : Option (KeyMap String) := do
  let entries ← entriesOf item
  let pairs ← entries.mapM fun (key, value) => (text? value).map (key, ·)
  return .ofList pairs

/-- A setting that may be missing; if it is there, it must have its type. -/
def optional {α : Type} (read : TomlItem → Option α) : Option TomlItem → Option (Option α)
  | none => some none
  | some item => (read item).map some

/-- The settings of three items, each of which may be missing. -/
def ofItems (agent timeout headers : Option TomlItem) : Option Settings := do
  let userAgent ← optional text? agent
  let connectTimeout ← optional seconds? timeout
  let defaultHeaders ← optional texts? headers
  return ⟨userAgent, connectTimeout, defaultHeaders.getD .empty⟩

/-- The settings of the item under `http`. -/
def ofItem (item : TomlItem) : Option Settings :=
  match item with
  | .array items => ofItems items[0]? items[1]? items[2]?
  | .tables elements =>
    let items := elements.map fun entries => TomlItem.table false false entries
    ofItems items[0]? items[1]? items[2]?
  | _ => do
    let entries ← entriesOf item
    ofItems (entries.lookup "user_agent") (entries.lookup "connect_timeout")
      (entries.lookup "default_headers")

/-- **The settings of a document.** -/
def ofToml? (text : String) : Option Settings := do
  let entries ← tomlDocument? text
  match entries.lookup "http" with
  | none => return {}
  | some item => ofItem item

end Settings

end HttpQuery
