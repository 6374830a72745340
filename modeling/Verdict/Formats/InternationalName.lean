import Verdict.Formats.NameSubstitution
import Verdict.Formats.Punycode
import Verdict.Unicode.Composition
import Verdict.Unicode.Direction
import Verdict.Unicode.Joining

/-! Host names in any script: the form in which they are compared, and which of them are
admitted. -/
namespace Verdict
namespace InternationalName

def isDelimiter (c : Char) : Bool :=
  c.toNat ≤ 0x20 || c.toNat == 0x7f || "%#/:<>?@[\\]^|".toList.contains c

def isAscii (s : List Char) : Bool := s.all fun c => c.toNat < 0x80

def folded? (s : List Char) : Option (List Char) :=
  (s.mapM NameSubstitution.text?).map fun parts => Composition.compose parts.flatten

/-- Longer encodings, and labels with more characters than half as many that are not
plain ASCII, are refused. -/
def longestEncoding : Nat := 2000

/-- The text that a label encodes. It is in folded form already and not plain ASCII,
and the encoding does not end in a hyphen. -/
def encodedText? (encoding : List Char) : Option (List Char) :=
  if longestEncoding < encoding.length || encoding.getLast? == some '-' then none
  else
    match Punycode.decode? encoding with
    | none => none
    | some t =>
      if isAscii t || !t.all NameSubstitution.isPlain || Composition.compose t != t then none
      else some t

def labelText? : List Char → Option (List Char)
  | 'x' :: 'n' :: '-' :: '-' :: encoding => encodedText? encoding
  | s => some s

def marks : ScalarSet := (Property.marks .v17).union NameSubstitution.recentMarks

def direction (c : Char) : Direction :=
  if NameSubstitution.recentMarks.contains c then .mark
  else if NameSubstitution.recentNeutrals.contains c then .neutral
  else if NameSubstitution.recentlyPlaced.contains c then .leftToRight
  else Direction.of c

def isLabel (s : List Char) : Bool :=
  !s.any isDelimiter && !s.head?.any marks.contains && Joining.isPlaced [] s
    && (isAscii s || s.length ≤ longestEncoding / 2)

/-- The folded form of a name whose labels are admitted. In a name with parts written
from right to left every label keeps one direction. -/
def normalize? (s : List Char) : Option (List Char) :=
  match folded? s with
  | none => none
  | some name =>
    match (segments '.' name).mapM labelText? with
    | none => none
    | some labels =>
      let directions := labels.map fun l => l.map direction
      let isMixed := directions.any fun l => l.any Direction.isMixing
      if labels.all isLabel && (!isMixed || directions.all Direction.isKept) then some name
      else none

end InternationalName
end Verdict
