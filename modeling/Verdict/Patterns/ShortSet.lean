import Verdict.Unicode.Property

/-! Sets of characters that patterns name in short: by one letter, or by a word between colons. -/
namespace Verdict

/-- Sets with a letter of their own. -/
inductive LetterSet where
  | digit | blank | word
deriving DecidableEq

namespace LetterSet

/-- Words are made of letters, marks, digits, connectors and joiners. -/
def wordMembers : ScalarSet := .unions [
  Property.alphabetic .v16, Property.marks .v16, ScalarSet.decimalDigit,
  GeneralCategory.connectorPunctuation.membersIn .v16, Property.joinControl]

def members : LetterSet → ScalarSet
  | .digit => ScalarSet.decimalDigit
  | .blank => ScalarSet.whiteSpace
  | .word => wordMembers

def asciiMembers : LetterSet → ScalarSet
  | .digit => .ofText "30-39"
  | .blank => .ofText "9-d 20"
  | .word => .ofText "30-39 41-5a 5f 61-7a"

end LetterSet

def asciiSet? : String → Option ScalarSet
  | "alnum" => some (.ofText "30-39 41-5a 61-7a")
  | "alpha" => some (.ofText "41-5a 61-7a")
  | "ascii" => some (.ofText "0-7f")
  | "blank" => some (.ofText "9 20")
  | "cntrl" => some (.ofText "0-1f 7f")
  | "digit" => some (.ofText "30-39")
  | "graph" => some (.ofText "21-7e")
  | "lower" => some (.ofText "61-7a")
  | "print" => some (.ofText "20-7e")
  | "punct" => some (.ofText "21-2f 3a-40 5b-60 7b-7e")
  | "space" => some (.ofText "9-d 20")
  | "upper" => some (.ofText "41-5a")
  | "word" => some (.ofText "30-39 41-5a 5f 61-7a")
  | "xdigit" => some (.ofText "30-39 41-46 61-66")
  | _ => none

end Verdict
