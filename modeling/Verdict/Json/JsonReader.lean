import Verdict.Json.JsonTree
import Verdict.Numbers.DecimalText

/-! Reading of JSON documents: first the grammar alone, then the tree a document denotes. -/
namespace Verdict

/-- A document as the grammar sees it. A string is a list of characters and of
UTF-16 units written as escapes; a number keeps its numeral. -/
inductive JsonSyntax where
  | null
  | bool (b : Bool)
  | number (integral : Bool) (numeral : DecimalNumeral)
  | string (parts : List (Char ⊕ Nat))
  | array (items : List JsonSyntax)
  | object (members : List (List (Char ⊕ Nat) × JsonSyntax))

namespace JsonReader

def isBlank (c : Char) : Bool := c == ' ' || c == '\t' || c == '\n' || c == '\r'

def skipBlanks (s : List Char) : List Char := s.dropWhile isBlank

def hexValue? (c : Char) : Option Nat :=
  if c.isDigit then some (c.toNat - '0'.toNat)
  else if 'a' ≤ c && c ≤ 'f' then some (c.toNat - 'a'.toNat + 10)
  else if 'A' ≤ c && c ≤ 'F' then some (c.toNat - 'A'.toNat + 10)
  else none

def shortEscape? : Char → Option Char
  | '"' => some '"'
  | '\\' => some '\\'
  | '/' => some '/'
  | 'b' => some '\x08'
  | 'f' => some '\x0c'
  | 'n' => some '\n'
  | 'r' => some '\r'
  | 't' => some '\t'
  | _ => none

def string? : List Char → Option (List (Char ⊕ Nat) × List Char)
  | '"' :: r => some ([], r)
  | '\\' :: 'u' :: a :: b :: c :: d :: r =>
    match hexValue? a, hexValue? b, hexValue? c, hexValue? d with
    | some a, some b, some c, some d =>
      (string? r).map fun p => (.inr (((a * 16 + b) * 16 + c) * 16 + d) :: p.1, p.2)
    | _, _, _, _ => none
  | '\\' :: c :: r =>
    match shortEscape? c with
    | some e => (string? r).map fun p => (.inl e :: p.1, p.2)
    | none => none
  | c :: r =>
    if c == '\\' || c.toNat < 0x20 then none
    else (string? r).map fun p => (.inl c :: p.1, p.2)
  | [] => none

def isNumeralChar (c : Char) : Bool :=
  c.isDigit || c == '-' || c == '+' || c == '.' || c == 'e' || c == 'E'

/-- A numeral: a whole part without a leading zero, and where there is a point a
digit on either side of it. -/
def number? (s : List Char) : Option JsonSyntax :=
  let (negative, r) := match s with
    | '-' :: r => (true, r)
    | r => (false, r)
  let whole := r.takeWhile Char.isDigit
  let rest := r.dropWhile Char.isDigit
  let pointed := match rest with
    | '.' :: c :: _ => c.isDigit
    | '.' :: [] => false
    | _ => true
  if whole.isEmpty || (whole.head? == some '0' && whole.length != 1) || !pointed then none
  else (DecimalNumeral.parseUnsigned negative r).map (.number rest.isEmpty)

mutual

/-- A value at the start of the text, with the text after it. Of two steps at least
one takes a character, so twice the length of the text bounds the number of steps. -/
def value? : Nat → List Char → Option (JsonSyntax × List Char)
  | 0, _ => none
  | fuel + 1, s =>
    match skipBlanks s with
    | 'n' :: 'u' :: 'l' :: 'l' :: r => some (.null, r)
    | 't' :: 'r' :: 'u' :: 'e' :: r => some (.bool true, r)
    | 'f' :: 'a' :: 'l' :: 's' :: 'e' :: r => some (.bool false, r)
    | '"' :: r => (string? r).map fun p => (.string p.1, p.2)
    | '[' :: r =>
      match skipBlanks r with
      | ']' :: r => some (.array [], r)
      | r => (items? fuel r).map fun p => (.array p.1, p.2)
    | '\x7b' :: r =>
      match skipBlanks r with
      | '\x7d' :: r => some (.object [], r)
      | r => (members? fuel r).map fun p => (.object p.1, p.2)
    | r => (number? (r.takeWhile isNumeralChar)).map fun n => (n, r.dropWhile isNumeralChar)

def items? : Nat → List Char → Option (List JsonSyntax × List Char)
  | 0, _ => none
  | fuel + 1, s =>
    match value? fuel s with
    | none => none
    | some (item, r) =>
      match skipBlanks r with
      | ']' :: r => some ([item], r)
      | ',' :: r => (items? fuel r).map fun p => (item :: p.1, p.2)
      | _ => none

def members? : Nat → List Char → Option (List (List (Char ⊕ Nat) × JsonSyntax) × List Char)
  | 0, _ => none
  | fuel + 1, s =>
    match skipBlanks s with
    | '"' :: r =>
      match string? r with
      | none => none
      | some (key, r) =>
        match skipBlanks r with
        | ':' :: r =>
          match value? fuel r with
          | none => none
          | some (item, r) =>
            match skipBlanks r with
            | '\x7d' :: r => some ([(key, item)], r)
            | ',' :: r => (members? fuel r).map fun p => ((key, item) :: p.1, p.2)
            | _ => none
        | _ => none
    | _ => none

end

end JsonReader

def JsonSyntax.read? (s : String) : Option JsonSyntax :=
  match JsonReader.value? (2 * s.length + 2) s.toList with
  | some (j, r) => if (JsonReader.skipBlanks r).isEmpty then some j else none
  | none => none

namespace JsonReader

/-- The text of a string: a high surrogate must be followed by a low one, and no
other surrogate is allowed. -/
def text? : List (Char ⊕ Nat) → Option (List Char)
  | [] => some []
  | .inl c :: r => (text? r).map (c :: ·)
  | [.inr u] => if 0xd800 ≤ u && u < 0xe000 then none else some [Char.ofNat u]
  | .inr u :: .inr v :: r =>
    if 0xd800 ≤ u && u < 0xdc00 then
      if 0xdc00 ≤ v && v < 0xe000 then
        (text? r).map (Char.ofNat (0x10000 + (u - 0xd800) * 0x400 + (v - 0xdc00)) :: ·)
      else none
    else if 0xdc00 ≤ u && u < 0xe000 then none
    else (text? (.inr v :: r)).map (Char.ofNat u :: ·)
  | .inr u :: .inl c :: r =>
    if 0xd800 ≤ u && u < 0xe000 then none else (text? (.inl c :: r)).map (Char.ofNat u :: ·)

/-- An integer that fits 64 bits is kept exactly; minus zero is not an integer. -/
def numberOf? (integral : Bool) (n : DecimalNumeral) : Option JsonNumber :=
  let x := n.toBinary64
  if integral && !n.isNegative && n.digits < UInt64.size then
    some (.natural (UInt64.ofNat n.digits))
  else if integral && n.isNegative && n.digits != 0 && n.digits ≤ 0x8000000000000000 then
    some (.negative (Int64.ofInt (-n.digits)))
  else if x.isFinite then some (.float x) else none

end JsonReader

namespace JsonSyntax

mutual

/-- The document a text denotes: strings must be well-formed and numbers finite. -/
def tree? : JsonSyntax → Option Json
  | .null => some .null
  | .bool b => some (.bool b)
  | .number integral n => (JsonReader.numberOf? integral n).map .number
  | .string parts => (JsonReader.text? parts).map fun cs => .string (String.ofList cs)
  | .array items => (trees? items).map .array
  | .object members => (memberTrees? members).map Json.ofMembers

def trees? : List JsonSyntax → Option (List Json)
  | [] => some []
  | j :: r =>
    match j.tree?, trees? r with
    | some j, some r => some (j :: r)
    | _, _ => none

def memberTrees? : List (List (Char ⊕ Nat) × JsonSyntax) → Option (List (String × Json))
  | [] => some []
  | (key, j) :: r =>
    match JsonReader.text? key, j.tree?, memberTrees? r with
    | some k, some j, some r => some ((String.ofList k, j) :: r)
    | _, _, _ => none

end

end JsonSyntax

def Json.read? (s : String) : Option Json :=
  match JsonSyntax.read? s with
  | some j => j.tree?
  | none => none

end Verdict
