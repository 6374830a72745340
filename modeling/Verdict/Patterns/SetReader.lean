import Verdict.Patterns.PatternText

/-! Reading of bracketed character sets in written patterns. -/
namespace Verdict
namespace SetReader

open PatternText (skip isBlank)

def asciiNamed? : List Char → Option (WrittenSet × List Char)
  | '[' :: ':' :: r =>
    let (negated, r) := match r with
      | '^' :: r => (true, r)
      | r => (false, r)
    match r.dropWhile Char.isAlpha with
    | ':' :: ']' :: rest =>
      (asciiSet? (String.ofList (r.takeWhile Char.isAlpha))).map fun s => (.ascii s negated, rest)
    | _ => none
  | _ => none

def member? (verbose : Bool) : List Char → Option (WrittenPattern × List Char)
  | '\\' :: r => PatternText.escape? verbose r
  | c :: r => some (.char ⟨c, false⟩, r)
  | [] => none

def single? : WrittenPattern → Option WrittenSet
  | .char c => some (.char c)
  | .set s => some s
  | _ => none

def range? : WrittenPattern → WrittenPattern → Option WrittenSet
  | .char low, .char high => if low.char ≤ high.char then some (.range low high) else none
  | _, _ => none

/-- What comes after a hyphen. In a verbose pattern blanks in front do not count, nor
does one number sign between them. -/
def afterHyphen? (verbose : Bool) (s : List Char) : Option Char :=
  if verbose then
    match s.dropWhile isBlank with
    | '#' :: r => (r.dropWhile isBlank).head?
    | r => r.head?
  else s.head?

/-- A member or a range of them. A hyphen before the closing bracket or before another
hyphen makes no range. -/
def item? (verbose : Bool) (s : List Char) : Option (WrittenSet × List Char) :=
  match member? verbose s with
  | none => none
  | some (low, r) =>
    match skip verbose r with
    | '-' :: r =>
      match afterHyphen? verbose r with
      | some ']' | some '-' => (single? low).map fun p => (p, '-' :: r)
      | _ =>
        match member? verbose (skip verbose r) with
        | some (high, r) => (range? low high).map fun p => (p, r)
        | none => none
    | r => (single? low).map fun p => (p, r)

def ofItems : List WrittenSet → WrittenSet
  | [s] => s
  | items => .members items

def whole (pending : Option (SetOperation × WrittenSet)) (items : List WrittenSet) : WrittenSet :=
  match pending with
  | some (op, a) => .combined op a (ofItems items.reverse)
  | none => ofItems items.reverse

/-- Hyphens at the start stand for themselves, and so does a bracket right at the start. -/
def leading (verbose : Bool) (s : List Char) : List WrittenSet × List Char :=
  match PatternText.run verbose (· == '-') false s with
  | ([], ']' :: r) => ([.char ⟨']', false⟩], r)
  | (hyphens, r) => (hyphens.map fun c => .char ⟨c, false⟩, r)

def negation (verbose : Bool) (s : List Char) : Bool × List Char :=
  match skip verbose s with
  | '^' :: r => (true, r)
  | r => (false, r)

mutual

/-- The items up to the closing bracket. Every step takes a character, so the length of
the text bounds their number. -/
def items? (verbose : Bool) : Nat → Option (SetOperation × WrittenSet) → List WrittenSet →
    List Char → Option (WrittenSet × List Char)
  | 0, _, _, _ => none
  | fuel + 1, pending, items, s =>
    match skip verbose s with
    | [] => none
    | ']' :: r => some (whole pending items, r)
    | '&' :: '&' :: r => items? verbose fuel (some (.intersection, whole pending items)) [] r
    | '-' :: '-' :: r => items? verbose fuel (some (.difference, whole pending items)) [] r
    | '~' :: '~' :: r =>
      items? verbose fuel (some (.symmetricDifference, whole pending items)) [] r
    | '[' :: r =>
      match asciiNamed? ('[' :: r) with
      | some (named, r) => items? verbose fuel pending (named :: items) r
      | none =>
        match bracketed? verbose fuel r with
        | some (inner, r) => items? verbose fuel pending (inner :: items) r
        | none => none
    | s =>
      match item? verbose s with
      | some (item, r) => items? verbose fuel pending (item :: items) r
      | none => none

def bracketed? (verbose : Bool) : Nat → List Char → Option (WrittenSet × List Char)
  | 0, _ => none
  | fuel + 1, s =>
    let (negated, r) := negation verbose s
    let (first, r) := leading verbose r
    (items? verbose fuel none first.reverse r).map fun p => (.bracketed negated p.1, p.2)

end

def read? (verbose : Bool) (s : List Char) : Option (WrittenSet × List Char) :=
  bracketed? verbose (2 * s.length + 2) s

end SetReader
end Verdict
