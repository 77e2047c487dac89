import HttpQuery.Text.Utf8
/-! # Base64

Three bytes are written as four characters of six bits each; at the end, two bytes or one are
written as three characters or two, and `=` fills the group. -/

namespace HttpQuery

open Text

/-- The character of a number below 64. -/
def base64Char (n : Nat) : Char :=
  if n < 26 then Char.ofNat ('A'.toNat + n)
  else if n < 52 then Char.ofNat ('a'.toNat + (n - 26))
  else if n < 62 then Char.ofNat ('0'.toNat + (n - 52))
  else if n = 62 then '+'
  else '/'

/-- **The Base64 form of some bytes.** -/
def base64 : Bytes → List Char
  | [] => []
  | [a] =>
    let n := a.toNat * 16
    [base64Char (n / 64), base64Char (n % 64), '=', '=']
  | [a, b] =>
    let n := (a.toNat * 256 + b.toNat) * 4
    [base64Char (n / 4096), base64Char (n / 64 % 64), base64Char (n % 64), '=']
  | a :: b :: c :: rest =>
    let n := (a.toNat * 256 + b.toNat) * 256 + c.toNat
    base64Char (n / 262144) :: base64Char (n / 4096 % 64) :: base64Char (n / 64 % 64) ::
      base64Char (n % 64) :: base64 rest

/-- The value of an `authorization` header for a login and a password. -/
def basicAuthorization (login password : String) : String :=
  "Basic " ++ String.ofList (base64 (utf8Bytes (login ++ ":" ++ password)))

end HttpQuery
