import Verdict.Formats.InternationalName
import Verdict.Formats.NetworkAddress
import Verdict.Text.LossyUtf8

/-! Absolute web addresses with a host. -/
namespace Verdict
namespace WebAddress

/-- How the rest of an address is read: schemes that go by name have their own rules. -/
inductive SchemeClass where
  | file | network | other
deriving DecidableEq

def SchemeClass.ofName (scheme : String) : SchemeClass :=
  if scheme == "file" then .file
  else if ["http", "https", "ws", "wss", "ftp"].contains scheme then .network
  else .other

/-- Backslashes are slashes unless the scheme is of no special class. -/
def isSlash (k : SchemeClass) (c : Char) : Bool := c == '/' || (c == '\\' && k != .other)

def endsAuthority (k : SchemeClass) (c : Char) : Bool := isSlash k c || c == '?' || c == '#'

def isBlankOrControl (c : Char) : Bool := c.toNat ≤ 0x20

def clean (s : List Char) : List Char :=
  let trimmed := ((s.dropWhile isBlankOrControl).reverse.dropWhile isBlankOrControl).reverse
  trimmed.filter fun c => c != '\t' && c != '\n' && c != '\r'

def scheme? (s : List Char) : Option (String × List Char) :=
  match cutAt? ':' s with
  | some (c :: cs, rest) =>
    if c.isAlpha && cs.all fun c => c.isAlphanum || c == '+' || c == '-' || c == '.' then
      some (String.ofList ((c :: cs).map Char.toLower), rest)
    else none
  | _ => none

/-- A number of an address of version 4 in base ten, eight after a zero, or sixteen
after `0x`. It may be too large for an address. -/
def number? (s : List Char) : Option Nat :=
  let (base, ds) := match s with
    | '0' :: 'x' :: r => (16, r)
    | '0' :: 'X' :: r => (16, r)
    | '0' :: c :: r => (8, c :: r)
    | r => (10, r)
  let values := ds.map JsonReader.hexValue?
  if s.isEmpty || !values.all fun v => v.any (· < base) then none
  else some (values.foldl (fun n v => n * base + v.getD 0) 0)

def parts (name : List Char) : List (List Char) :=
  let ps := segments '.' name
  if ps.getLast? == some [] then ps.dropLast else ps

def endsInNumber (name : List Char) : Bool :=
  match (parts name).getLast? with
  | some last => (!last.isEmpty && last.all Char.isDigit) || (number? last).isSome
  | none => false

/-- Up to four numbers, the last of which fills all bytes that the others leave. -/
def isNumericHost (name : List Char) : Bool :=
  match (parts name).mapM number? with
  | none => false
  | some ns =>
    match ns.reverse with
    | [] => false
    | last :: others =>
      ns.length ≤ 4 && others.all (· ≤ 255) && last < Nat.pow 256 (5 - ns.length)

def percentDecode : List Char → List UInt8
  | [] => []
  | '%' :: a :: b :: rest =>
    match JsonReader.hexValue? a, JsonReader.hexValue? b with
    | some x, some y => UInt8.ofNat (x * 16 + y) :: percentDecode rest
    | _, _ => 0x25 :: percentDecode (a :: b :: rest)
  | c :: rest => (String.singleton c).toUTF8.toList ++ percentDecode rest

def isBracketed (s : List Char) : Bool :=
  match s with
  | '[' :: r => r.getLast? == some ']' && NetworkAddress.isIPv6 r.dropLast
  | _ => false

/-- The host of a scheme of a special class, in folded form: an address in brackets, or
a name that is not empty and, where it ends in a number, is an address. -/
def host? (s : List Char) : Option (List Char) :=
  if s.head? == some '[' then if isBracketed s then some s else none
  else
    match InternationalName.normalize? (lossyText (percentDecode s)).toList with
    | none => none
    | some name =>
      if name.isEmpty || (endsInNumber name && !isNumericHost name) then none else some name

def isRefused (c : Char) : Bool :=
  c == '\x00' || c == '\t' || c == '\n' || c == '\r' || " #/:<>?@[\\]^|".toList.contains c

def isPlainHost (s : List Char) : Bool :=
  if s.head? == some '[' then isBracketed s else !s.isEmpty && !s.any isRefused

def splitHost (inBrackets : Bool) : List Char → List Char × List Char
  | [] => ([], [])
  | c :: rest =>
    if c == ':' && !inBrackets then ([], c :: rest)
    else
      let p := splitHost (if c == '[' then true else if c == ']' then false else inBrackets) rest
      (c :: p.1, p.2)

/-- Nothing, or a colon and a number of 16 bits, which a backslash ends in any scheme. -/
def isPort : List Char → Bool
  | [] => true
  | ':' :: r =>
    let ds := r.takeWhile (· != '\\')
    ds.all Char.isDigit && DecimalNumeral.ofDigits ds < 65536
  | _ => false

def withoutUser (s : List Char) : List Char := (s.reverse.takeWhile (· != '@')).reverse

def hasHost (k : SchemeClass) (authority : List Char) : Bool :=
  let (host, port) := splitHost false (withoutUser authority)
  (if k == .other then isPlainHost host else (host? host).isSome) && isPort port

def isDrive : List Char → Bool
  | [c, d] => c.isAlpha && (d == ':' || d == '|')
  | _ => false

/-- A file's host is another computer, and the path does not begin with a drive. -/
def hasFileHost (s : List Char) : Bool :=
  let host := s.takeWhile fun c => !endsAuthority .file c
  let path := (s.dropWhile fun c => !endsAuthority .file c).takeWhile fun c => c != '?' && c != '#'
  let first := (path.drop 1).takeWhile fun c => !isSlash .file c
  !host.isEmpty && !isDrive host && !isDrive first
    && (host? host).any fun name => name != "localhost".toList

def isValid (s : List Char) : Bool :=
  match scheme? (clean s) with
  | none => false
  | some (scheme, rest) =>
    let k := SchemeClass.ofName scheme
    let authority := fun s : List Char => s.takeWhile fun c => !endsAuthority k c
    match k with
    | .network => hasHost k (authority (rest.dropWhile (isSlash k)))
    | .other =>
      match rest with
      | '/' :: '/' :: r => hasHost k (authority r)
      | _ => false
    | .file =>
      match rest with
      | a :: b :: r => isSlash k a && isSlash k b && hasFileHost r
      | _ => false

end WebAddress
end Verdict
