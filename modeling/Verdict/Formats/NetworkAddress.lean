import Verdict.Formats.HostName
import Verdict.Json.JsonReader

/-! Addresses in networks: internet addresses of both versions, ports, hardware and mail
addresses. -/
namespace Verdict
namespace NetworkAddress

def isHexDigit (c : Char) : Bool := (JsonReader.hexValue? c).isSome

def isOctet (s : List Char) : Bool :=
  match s with
  | [] => false
  | c :: rest =>
    s.all Char.isDigit && s.length ≤ 3 && (rest.isEmpty || c != '0')
      && DecimalNumeral.ofDigits s ≤ 255

def isIPv4 (s : List Char) : Bool :=
  let parts := segments '.' s
  parts.length == 4 && parts.all isOctet

def isGroup (s : List Char) : Bool := !s.isEmpty && s.length ≤ 4 && s.all isHexDigit

/-- The number of groups in parts between colons. An address of version 4 may come
last where that is allowed, and counts as two. -/
def countGroups? (tailAllowed : Bool) : List (List Char) → Option Nat
  | [] => some 0
  | [s] => if isGroup s then some 1 else if tailAllowed && isIPv4 s then some 2 else none
  | s :: rest => if isGroup s then (countGroups? tailAllowed rest).map (· + 1) else none

def groupsOf? (tailAllowed : Bool) (s : List Char) : Option Nat :=
  if s.isEmpty then some 0 else countGroups? tailAllowed (segments ':' s)

def cutAtGap? : List Char → Option (List Char × List Char)
  | ':' :: ':' :: rest => some ([], rest)
  | c :: rest => (cutAtGap? rest).map fun p => (c :: p.1, p.2)
  | [] => none

/-- Eight groups, or at most seven with a pair of colons in place of the missing ones. -/
def isIPv6 (s : List Char) : Bool :=
  match cutAtGap? s with
  | none => groupsOf? true s == some 8
  | some (front, back) =>
    match groupsOf? false front, groupsOf? true back with
    | some a, some b => a + b ≤ 7
    | _, _ => false

def isIP (s : List Char) : Bool := isIPv4 s || isIPv6 s

def isHost (s : List Char) : Bool := isIP s || HostName.isDnsName s

/-- A number from 1 to 65535; a plus sign and leading zeros do no harm. -/
def isPort (s : List Char) : Bool :=
  let ds := match s with
    | '+' :: r => r
    | r => r
  let n := DecimalNumeral.ofDigits ds
  !ds.isEmpty && ds.all Char.isDigit && 1 ≤ n && n ≤ 65535

def isHexGroups (width : Nat) (separator : Char → Bool) : Nat → List Char → Bool
  | 0, s => s.length == width && s.all isHexDigit
  | more + 1, s =>
    (s.take width).length == width && (s.take width).all isHexDigit
      && match s.drop width with
        | c :: rest => separator c && isHexGroups width separator more rest
        | [] => false

/-- Six pairs of digits between colons or hyphens, or three groups of four between points. -/
def isMac (s : List Char) : Bool :=
  isHexGroups 2 (fun c => c == ':' || c == '-') 5 s || isHexGroups 4 (· == '.') 2 s

def isLocalChar (c : Char) : Bool :=
  c.isAlphanum || ".!#$%&'*+/=?^_\x60\x7b|\x7d~-".toList.contains c

/-- A local part and labels joined by points, of 254 bytes together. -/
def isEmail (s : String) : Bool :=
  s.utf8ByteSize ≤ 254
    && match cutAt? '@' s.toList with
      | some (user, host) =>
        !user.isEmpty && user.all isLocalChar && (segments '.' host).all HostName.isLabel
      | none => false

end NetworkAddress
end Verdict
