import Verdict.Patterns.SetReader

/-! Reading of written patterns. -/
namespace Verdict
namespace PatternReader

open PatternText (skip)

/-- The beginning of a group after its parenthesis. -/
inductive GroupHead where
  /-- Options alone, which hold up to the end of the enclosing group. -/
  | options (changes : OptionChanges)
  | group (captures : Bool) (changes : OptionChanges) (name : Option (List Char))

def option? : Char → Option PatternOption
  | 'i' => some .anyCase
  | 'm' => some .manyLines
  | 's' => some .dotAll
  | 'U' => some .swappedGreed
  | 'u' => some .unicode
  | 'R' => some .carriageReturns
  | 'x' => some .verbose
  | _ => none

/-- Options up to a colon or a parenthesis, the changes so far last first; those after
a hyphen are switched off. No option is given twice, and one follows the hyphen. -/
def options? (changes : OptionChanges) (on dangling : Bool) :
    List Char → Option (GroupHead × List Char)
  | [] => none
  | ':' :: r => if dangling then none else some (.group false changes none, r)
  | ')' :: r => if dangling || changes.isEmpty then none else some (.options changes, r)
  | '-' :: r => if on then options? changes false true r else none
  | c :: r =>
    match option? c with
    | none => none
    | some o =>
      if changes.any fun change => change.1 == o then none
      else options? ((o, on) :: changes) on false r

def letters : ScalarSet := Property.alphabetic .v17

def numerals : ScalarSet := Property.numbers .v17

def isNameStart (c : Char) : Bool := c == '_' || letters.contains c

def isNameChar (c : Char) : Bool :=
  isNameStart c || numerals.contains c || c == '.' || c == '[' || c == ']'

def name? (s : List Char) : Option (GroupHead × List Char) :=
  let name := s.takeWhile (· != '>')
  match s.dropWhile (· != '>'), name with
  | '>' :: r, c :: cs =>
    if isNameStart c && cs.all isNameChar then some (.group true [] (some name), r) else none
  | _, _ => none

/-- The beginning of a group. Conditions on what stands around a match are refused. -/
def groupHead? : List Char → Option (GroupHead × List Char)
  | '?' :: 'P' :: '<' :: r => name? r
  | '?' :: '<' :: '=' :: _ => none
  | '?' :: '<' :: '!' :: _ => none
  | '?' :: '<' :: r => name? r
  | '?' :: r => options? [] true false r
  | r => some (.group true [] none, r)

def verboseAfter (verbose : Bool) (changes : OptionChanges) : Bool :=
  match changes.find? fun change => change.1 == .verbose with
  | some change => change.2
  | none => verbose

/-- A question mark after a repetition prefers fewer rounds, which changes no verdict. -/
def skipLazy : List Char → List Char
  | '?' :: r => r
  | r => r

def repeatLast? (parts : List WrittenPattern) (least : Nat) (most : Option Nat) :
    Option (List WrittenPattern) :=
  match parts with
  | [] => none
  | p :: ps => if p.isBare then none else some (.repeated p least most :: ps)

def whole (choices parts : List WrittenPattern) : WrittenPattern :=
  .ofChoices (.ofParts parts.reverse :: choices).reverse

/-- What has been read: the pattern, the names of its groups, and the text from the
closing parenthesis on. -/
abbrev Reading := WrittenPattern × List (List Char) × List Char

/-- Alternatives up to the end or a closing parenthesis. Every step takes a character,
so the length of the text bounds their number. -/
def alternatives? : Nat → Bool → List (List Char) → List WrittenPattern → List WrittenPattern →
    List Char → Option Reading
  | 0, _, _, _, _, _ => none
  | fuel + 1, verbose, names, choices, parts, s =>
    let next := fun p r => alternatives? fuel verbose names choices (p :: parts) r
    let repetition := fun least most r =>
      match repeatLast? parts least most with
      | some parts => alternatives? fuel verbose names choices parts (skipLazy r)
      | none => none
    match skip verbose s with
    | [] => some (whole choices parts, names, [])
    | ')' :: r => some (whole choices parts, names, ')' :: r)
    | '|' :: r => alternatives? fuel verbose names (.ofParts parts.reverse :: choices) [] r
    | '*' :: r => repetition 0 none r
    | '+' :: r => repetition 1 none r
    | '?' :: r => repetition 0 (some 1) r
    | '\x7b' :: r =>
      match PatternText.bounds? verbose r with
      | some ((least, most), r) => repetition least most (skip verbose r)
      | none => none
    | '(' :: r =>
      match groupHead? (skip verbose r) with
      | none => none
      | some (.options changes, r) =>
        alternatives? fuel (verboseAfter verbose changes) names choices
          (.options changes :: parts) r
      | some (.group captures changes name, r) =>
        if name.any names.contains then none
        else
          let verboseInside := verboseAfter verbose changes
          match alternatives? fuel verboseInside (name.toList ++ names) [] [] r with
          | some (p, names, ')' :: r) =>
            alternatives? fuel verbose names choices (.group captures changes p :: parts) r
          | _ => none
    | '[' :: r =>
      match SetReader.read? verbose r with
      | some (set, r) => next (.set set) r
      | none => none
    | '\\' :: r =>
      match PatternText.escape? verbose r with
      | some (p, r) => next p r
      | none => none
    | '.' :: r => next .anyChar r
    | '^' :: r => next (.anchor .lineStart) r
    | '$' :: r => next (.anchor .lineEnd) r
    | c :: r => next (.char ⟨c, false⟩) r

end PatternReader

def WrittenPattern.read? (s : String) : Option WrittenPattern :=
  match PatternReader.alternatives? (s.length + 1) false [] [] [] s.toList with
  | some (p, _, []) => some p
  | _ => none

end Verdict
