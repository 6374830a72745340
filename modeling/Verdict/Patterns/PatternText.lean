import Verdict.Json.JsonReader
import Verdict.Numbers.DecimalText
import Verdict.Patterns.WrittenPattern

/-! The small parts of a written pattern: blanks, counts, and escapes. -/
namespace Verdict
namespace PatternText

def isBlank (c : Char) : Bool := ScalarSet.whiteSpace.contains c

def dropBlanks (inComment : Bool) : List Char → List Char
  | [] => []
  | c :: r =>
    if inComment then dropBlanks (c != '\n') r
    else if c == '#' then dropBlanks true r
    else if isBlank c then dropBlanks false r
    else c :: r

def skip (verbose : Bool) (s : List Char) : List Char :=
  if verbose then dropBlanks false s else s

def run (verbose : Bool) (p : Char → Bool) (inComment : Bool) :
    List Char → List Char × List Char
  | [] => ([], [])
  | c :: r =>
    if inComment then run verbose p (c != '\n') r
    else if verbose && c == '#' then run verbose p true r
    else if verbose && isBlank c then run verbose p false r
    else if p c then ((c :: (run verbose p false r).1), (run verbose p false r).2)
    else ([], c :: r)

/-- A count of repetitions below 2^32, possibly between blanks. -/
def count? (verbose : Bool) (s : List Char) : Option (Nat × List Char) :=
  let (ds, rest) := run verbose Char.isDigit false (s.dropWhile isBlank)
  let n := DecimalNumeral.ofDigits ds
  if ds.isEmpty || UInt32.size ≤ n then none else some (n, rest.dropWhile isBlank)

def bounds? (verbose : Bool) (s : List Char) : Option ((Nat × Option Nat) × List Char) :=
  match count? verbose (skip verbose s) with
  | none => none
  | some (least, '\x7d' :: r) => some ((least, some least), r)
  | some (least, ',' :: r) =>
    match skip verbose r with
    | '\x7d' :: r => some ((least, none), r)
    | r =>
      match count? verbose r with
      | some (most, '\x7d' :: r) => if least ≤ most then some ((least, some most), r) else none
      | _ => none
  | some _ => none

def isHexDigit (c : Char) : Bool := (JsonReader.hexValue? c).isSome

def hexChar? (ds : List Char) : Option Char :=
  match ds.mapM JsonReader.hexValue? with
  | none => none
  | some vs =>
    let n := vs.foldl (fun n v => n * 16 + v) 0
    if vs.isEmpty || 0x110000 ≤ n || (0xd800 ≤ n && n < 0xe000) then none else some (Char.ofNat n)

def hexDigits? (verbose : Bool) : Nat → List Char → Option (List Char × List Char)
  | 0, s => some ([], s)
  | n + 1, c :: r =>
    if isHexDigit c then (hexDigits? verbose n (skip verbose r)).map fun p => (c :: p.1, p.2)
    else none
  | _ + 1, [] => none

def hex? (verbose : Bool) (count : Nat) (s : List Char) : Option (WrittenPattern × List Char) :=
  match skip verbose s with
  | '\x7b' :: r =>
    match run verbose isHexDigit false r with
    | (ds, '\x7d' :: rest) => (hexChar? ds).map fun c => (.char ⟨c, false⟩, skip verbose rest)
    | _ => none
  | s =>
    match hexDigits? verbose count s with
    | some (ds, rest) => (hexChar? ds).map fun c => (.char ⟨c, count == 2⟩, rest)
    | none => none

def cut? (mark : List Char) : List Char → Option (List Char × List Char)
  | [] => none
  | c :: r =>
    if mark.isPrefixOf (c :: r) then some ([], (c :: r).drop mark.length)
    else (cut? mark r).map fun p => (c :: p.1, p.2)

/-- A property between braces. An equals sign after an exclamation mark, a colon or an
equals sign parts its name from a value. -/
def property (text : List Char) : WrittenProperty :=
  match (cut? ['!', '='] text <|> cut? [':'] text) <|> cut? ['='] text with
  | some (name, value) => .valued name value
  | none => .named text

def property? (verbose : Bool) (s : List Char) : Option (WrittenProperty × List Char) :=
  match skip verbose s with
  | '\x7b' :: r =>
    match run verbose (· != '\x7d') false r with
    | (text, '\x7d' :: rest) => some (property text, rest)
    | _ => none
  | '\\' :: _ => none
  | c :: r => some (.named [c], skip verbose r)
  | [] => none

def isAnchorChar (c : Char) : Bool := c.isAlpha || c == '-'

/-- The edge of a word after its letter: any, or the one named in braces. Braces that
begin otherwise belong to a repetition. -/
def wordEdge? (verbose : Bool) (s : List Char) : Option (WrittenAnchor × List Char) :=
  match s with
  | '\x7b' :: r =>
    if (skip verbose r).head?.any isAnchorChar then
      match run verbose isAnchorChar false r with
      | (name, '\x7d' :: rest) =>
        match String.ofList name with
        | "start" => some (.wordStart, rest)
        | "end" => some (.wordEnd, rest)
        | "start-half" => some (.wordStartHalf, rest)
        | "end-half" => some (.wordEndHalf, rest)
        | _ => none
      | _ => none
    else some (.wordBoundary, s)
  | s => some (.wordBoundary, s)

/-- ASCII characters other than letters, digits and angle brackets stand for
themselves after a backslash. -/
def isPlain (c : Char) : Bool := c.toNat < 0x80 && !c.isAlphanum && c != '<' && c != '>'

/-- Reads an escape after its backslash. Digits would refer back to a group, which
patterns cannot. -/
def escape? (verbose : Bool) : List Char → Option (WrittenPattern × List Char)
  | [] => none
  | c :: r =>
    let char := fun c => some (WrittenPattern.char ⟨c, false⟩, r)
    let letter := fun set negated => some (WrittenPattern.set (.letter set negated), r)
    let anchor := fun a => some (WrittenPattern.anchor a, r)
    match c with
    | 'd' => letter .digit false
    | 'D' => letter .digit true
    | 's' => letter .blank false
    | 'S' => letter .blank true
    | 'w' => letter .word false
    | 'W' => letter .word true
    | 'p' => (property? verbose r).map fun p => (.set (.property p.1 false), p.2)
    | 'P' => (property? verbose r).map fun p => (.set (.property p.1 true), p.2)
    | 'x' => hex? verbose 2 r
    | 'u' => hex? verbose 4 r
    | 'U' => hex? verbose 8 r
    | 'a' => char '\x07'
    | 'f' => char '\x0c'
    | 't' => char '\t'
    | 'n' => char '\n'
    | 'r' => char '\r'
    | 'v' => char '\x0b'
    | 'A' => anchor .textStart
    | 'z' => anchor .textEnd
    | 'b' => (wordEdge? verbose r).map fun p => (.anchor p.1, p.2)
    | 'B' => anchor .noWordBoundary
    | '<' => anchor .wordStart
    | '>' => anchor .wordEnd
    | c => if isPlain c then char c else none

end PatternText
end Verdict
