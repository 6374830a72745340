import Verdict.Patterns.ShortSet

/-! Patterns as they are written, before options decide what their parts mean. -/
namespace Verdict

/-- A character as it is written. One given by exactly two hexadecimal digits may mean
a byte. -/
structure WrittenChar where
  char : Char
  isByte : Bool := false

/-- A property by its name alone, or by its name and one of its values. -/
inductive WrittenProperty where
  | named (name : List Char)
  | valued (name value : List Char)

inductive SetOperation where
  | intersection | difference | symmetricDifference

/-- A set of characters as it is written. -/
inductive WrittenSet where
  | char (c : WrittenChar)
  | range (low high : WrittenChar)
  | letter (set : LetterSet) (negated : Bool)
  | ascii (set : ScalarSet) (negated : Bool)
  | property (p : WrittenProperty) (negated : Bool)
  | bracketed (negated : Bool) (s : WrittenSet)
  | members (items : List WrittenSet)
  | combined (op : SetOperation) (a b : WrittenSet)

/-- Conditions on a place as they are written. -/
inductive WrittenAnchor where
  | lineStart | lineEnd | textStart | textEnd
  | wordBoundary | noWordBoundary | wordStart | wordEnd | wordStartHalf | wordEndHalf

inductive PatternOption where
  | anyCase | manyLines | dotAll | swappedGreed | unicode | carriageReturns | verbose
deriving DecidableEq

abbrev OptionChanges := List (PatternOption × Bool)

/-- Options alone hold up to the end of the enclosing group, those of a group inside it. -/
inductive WrittenPattern where
  | empty
  | options (changes : OptionChanges)
  | char (c : WrittenChar)
  | anyChar
  | anchor (a : WrittenAnchor)
  | set (s : WrittenSet)
  | group (captures : Bool) (changes : OptionChanges) (p : WrittenPattern)
  | repeated (p : WrittenPattern) (least : Nat) (most : Option Nat)
  | seq (parts : List WrittenPattern)
  | alt (choices : List WrittenPattern)

namespace WrittenSet

mutual

def depth : WrittenSet → Nat
  | .bracketed _ s => s.depth + 1
  | .members items => depthOfAll items + (if items.length < 2 then 0 else 1)
  | .combined _ a b => max a.depth b.depth + 1
  | _ => 0

def depthOfAll : List WrittenSet → Nat
  | [] => 0
  | s :: rest => max s.depth (depthOfAll rest)

end

end WrittenSet

namespace WrittenPattern

def ofParts : List WrittenPattern → WrittenPattern
  | [] => .empty
  | [p] => p
  | ps => .seq ps

def ofChoices : List WrittenPattern → WrittenPattern
  | [p] => p
  | ps => .alt ps

/-- Nothing that could be repeated. -/
def isBare : WrittenPattern → Bool
  | .empty | .options _ => true
  | _ => false

mutual

def depth : WrittenPattern → Nat
  | .set s => s.depth
  | .group _ _ p => p.depth + 1
  | .repeated p _ _ => p.depth + 1
  | .seq ps => depthOfAll ps + 1
  | .alt ps => depthOfAll ps + 1
  | _ => 0

def depthOfAll : List WrittenPattern → Nat
  | [] => 0
  | p :: rest => max p.depth (depthOfAll rest)

end

def deepest : Nat := 250

end WrittenPattern
end Verdict
