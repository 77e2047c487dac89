import HttpQuery.Text.LetterCase
/-! # Lower-casing a text

Each character is replaced by its lower-case form; the form of a character has one character, but
for `İ` it has two. Only the capital sigma looks at its context: at the end of a word it becomes
`ς`, and `σ` elsewhere. *At the end of a word* means that the nearest character before it that is
not case-ignorable is cased, and the nearest one after it is not.

* `lowerChar`: the lower-case form of a character other than the capital sigma.
* `lowercaseFrom`: the lower-case form of a text, given whether a cased character stands before it.
* `lowercase`: the lower-case form of a whole text. -/

namespace HttpQuery.Text

/-- The capital sigma, `Σ`. -/
abbrev capitalSigma : Char := '\u03A3'

/-- The lower-case form of a character, without regard to its context. -/
def lowerChar (c : Char) : List Char :=
  if c = '\u0130' then ['i', '\u0307']
  else match CaseRun.lookup lowercaseRuns c.toNat with
    | some n => [Char.ofNat n]
    | none => [c]

/-- Whether the nearest character that is not case-ignorable is cased. -/
def casedAhead : List Char → Bool
  | [] => false
  | c :: cs => if isCaseIgnorable c then casedAhead cs else isCased c

/-- Whether, after `c`, the nearest character before the reading point that is not case-ignorable is
cased, if `afterCased` says so before `c`. -/
def casedBehind (afterCased : Bool) (c : Char) : Bool :=
  if isCaseIgnorable c then afterCased else isCased c

/-- The lower-case form of the rest of a text; `afterCased` tells about the text before it. -/
def lowercaseFrom (afterCased : Bool) : List Char → List Char
  | [] => []
  | c :: cs =>
    let here :=
      if c = capitalSigma then [if afterCased && !casedAhead cs then '\u03C2' else '\u03C3']
      else lowerChar c
    here ++ lowercaseFrom (casedBehind afterCased c) cs

/-- **The lower-case form of a text.** -/
def lowercase (text : List Char) : List Char := lowercaseFrom false text

@[simp] theorem lowercase_nil : lowercase [] = [] := rfl

end HttpQuery.Text
