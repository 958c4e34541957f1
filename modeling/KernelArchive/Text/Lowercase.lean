import KernelArchive.Text.Lowercase.Context
import KernelArchive.Text.Lowercase.Pairs

/-!
# Lower case

* `Text.lowerChars`: the lower-case form of one character, which for `İ` has two characters.
* `Text.endsWord`: a capital sigma between these neighbours ends a word.
* `Text.lowercase`: the lower-case form of a text. Only the capital sigma looks at its neighbours:
  it becomes `ς` at the end of a word and `σ` elsewhere.
-/

namespace KernelArchive.Text
set_option autoImplicit false

/-- The code point of the lower-case partner; a code point without one is its own. -/
def lowerCode (n : Nat) : Nat :=
  match caseRuns.find? (·.holds n) with
  | some run => run.lower n
  | none => n

/-- The lower-case form of a character away from any context. -/
def lowerChars (c : Char) : List Char :=
  if c = 'İ' then ['i', '\u0307'] else [Char.ofNat (lowerCode c.toNat)]

/-- Does a character with case come first, after any that case rules look through? -/
def casedFirst (cs : List Char) : Bool := (cs.dropWhile isCaseIgnorable).head?.any isCased

/-- Does a capital sigma end a word, standing after `before` (nearest character first) and in
front of `after`? -/
def endsWord (before after : List Char) : Bool := casedFirst before && !casedFirst after

/-- The lower-case form of a text that stands after `before` (nearest character first). -/
def lowercaseAfter (before : List Char) : List Char → List Char
  | [] => []
  | c :: rest =>
    (if c = 'Σ' then [if endsWord before rest then 'ς' else 'σ'] else lowerChars c)
      ++ lowercaseAfter (c :: before) rest

/-- The lower-case form of a text. -/
def lowercase (cs : List Char) : List Char := lowercaseAfter [] cs

end KernelArchive.Text
