import HttpQuery.Query.Token
import HttpQuery.Text.Numeral
/-! # What can be wrong with a query

The five causes for which a query and its arguments do not compile, and their wording. -/

namespace HttpQuery

/-- **Why a query does not compile.** -/
inductive CompileError where
  /-- A token that cannot stand where it stands. Positions count from 1; the kinds that could have
  stood there are listed in the order of priority. -/
  | unexpectedToken (position : Nat) (found : Kind) (expected : List Kind)
  /-- The query ends where it cannot end. -/
  | incomplete
  /-- The query takes its body from an argument, and there is none. -/
  | missingPayload
  /-- The last timeout is no numeral. -/
  | invalidTimeout (cause : Text.NumeralError)
  /-- The placeholders and the text arguments are not equally many. -/
  | placeholderCount (placeholders supplied : Nat)
deriving DecidableEq, Repr

/-- The wording of each cause. -/
def CompileError.message : CompileError → String
  | .unexpectedToken position found expected =>
    "parse error at " ++ toString position ++ " token (" ++ found.word ++ "), expected: " ++
      ",".intercalate (expected.map Kind.word)
  | .incomplete => "command incomplete, unexpected EOF"
  | .missingPayload => "no payload"
  | .invalidTimeout cause => "wrong timeout format error: " ++ cause.message
  | .placeholderCount placeholders supplied =>
    "query has " ++ toString placeholders ++ " %s placeholder(s) but " ++ toString supplied ++
      " string argument(s) were supplied"

end HttpQuery
