import HttpQuery.Http.Escape
/-! # Hosts

The host of a web address is a name or an address of four numbers. Escapes `%xx` are resolved and
letters are lower-cased first. A host whose last label is a number must be an address; its parts may
be decimal, octal or hexadecimal, and the last part fills the bytes that are left.

Two kinds of hosts are left out, and a text with such a host is refused: addresses in brackets, and
international names, be they written in characters that are not ASCII or in labels that start with
`xn--`, which cannot be checked without the tables for these names.

* `specialHost?`: the host of the schemes of the web, as it is printed.
* `opaqueHost?`: the host of any other scheme. -/

namespace HttpQuery

open Text

/-- The characters that no host may hold. -/
def isForbiddenHostChar (c : Char) : Bool :=
  ['\x00', '\t', '\n', '\r', ' ', '#', '/', ':', '<', '>', '?', '@', '[', '\\', ']', '^',
    '|'].contains c

/-- The characters that no host of the web may hold: controls and the percent sign too. -/
def isForbiddenDomainChar (c : Char) : Bool :=
  isForbiddenHostChar c || c.toNat < 0x20 || c == '%' || c == '\x7F'

/-! ### Addresses of four numbers -/

/-- The value of a part of an address: decimal, octal after `0`, hexadecimal after `0x`. -/
def addressPart? : List Char → Option Nat
  | [] => none
  | '0' :: 'x' :: digits => valueInBase 16 digits
  | '0' :: d :: digits => valueInBase 8 (d :: digits)
  | digits => valueInBase 10 digits

/-- The labels between the dots of a host. -/
def labels (host : List Char) : List (List Char) := host.splitOn '.'

/-- The labels of a host, without an empty last one. -/
def labelsBeforeEnd (host : List Char) : List (List Char) :=
  let ls := labels host
  if 1 < ls.length ∧ ls.getLast? = some [] then ls.dropLast else ls

/-- Whether a host must be an address of numbers. -/
def endsInNumber (host : List Char) : Bool :=
  match (labelsBeforeEnd host).getLast? with
  | none => false
  | some last => (last ≠ [] && last.all Char.isDigit) || (addressPart? last).isSome

/-- The four bytes of an address, written with dots. -/
def addressText (n : Nat) : String :=
  ".".intercalate ([n / 16777216, n / 65536 % 256, n / 256 % 256, n % 256].map toString)

/-- The address of some parts: each but the last is one byte, and the last fills the rest. -/
def addressOfParts? (parts : List Nat) : Option Nat :=
  match parts.reverse with
  | [] => none
  | last :: before =>
    if 3 < before.length ∨ before.any (255 < ·) ∨ Nat.pow 256 (4 - before.length) ≤ last then none
    else some (before.reverse.foldr (fun b n => b * Nat.pow 256 3 + n / 256) 0 + last)

/-- Whether a label stands for one that is not ASCII. -/
def isEncodedLabel (label : List Char) : Bool := ['x', 'n', '-', '-'].isPrefixOf label

/-- **The host of a web address**, as it is printed. Addresses in brackets are not read, and neither
are names that are not ASCII, nor labels that stand for such names. -/
def specialHost? (text : List Char) : Option String := do
  let host := (percentDecode text).map fun b => (Char.ofNat b.toNat).toLower
  if host = [] ∨ host.any (fun c => isForbiddenDomainChar c || 0x7F < c.toNat) then none
  else if (labels host).any isEncodedLabel then none
  else if endsInNumber host then
    let parts ← (labelsBeforeEnd host).mapM addressPart?
    let address ← addressOfParts? parts
    return addressText address
  else return String.ofList host

/-- **The host of another scheme**, as it is printed; nothing is resolved. -/
def opaqueHost? (text : List Char) : Option String :=
  if text = [] ∨ text.any isForbiddenHostChar then none
  else some (String.ofList (percentEncode (fun _ => false) text))

end HttpQuery
