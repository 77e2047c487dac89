import HttpQuery.KeyMap
/-! # Settings

What a configuration file sets for the client: a user agent, a time limit for connecting, and
headers that are sent with every request unless the query sets the same ones. -/

namespace HttpQuery

/-- **The settings of a client.** -/
structure Settings where
  userAgent : Option String := none
  /-- In seconds. -/
  connectTimeout : Option Nat := none
  defaultHeaders : KeyMap String := .empty
deriving DecidableEq

instance : Inhabited Settings := ⟨{}⟩

end HttpQuery
