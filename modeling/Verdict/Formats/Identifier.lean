import Verdict.Formats.WrittenNumber
import Verdict.Text.Segments

/-! Identifiers: universally unique ones, document identifiers, versions and countries. -/
namespace Verdict

namespace Uuid

def groups? (s : List Char) : Option (List (List Char)) :=
  let parts := segments '-' s
  if parts.map List.length == [8, 4, 4, 4, 12] && parts.all WrittenNumber.isHexadecimal then
    some parts
  else none

def isValid (s : List Char) : Bool := (groups? s).isSome

/-- The version is the first digit of the third group; the first of the fourth tells
that the layout is the one that has versions. -/
def hasVersion (version : Nat) (s : List Char) : Bool :=
  match groups? s with
  | some [_, _, v :: _, l :: _, _] =>
    JsonReader.hexValue? v == some version
      && (JsonReader.hexValue? l).any fun n => 8 ≤ n && n < 12
  | _ => false

end Uuid

def isObjectId (s : List Char) : Bool := s.length == 24 && WrittenNumber.isHexadecimal s

namespace Version

def isNumber (s : List Char) : Bool :=
  match s with
  | [] => false
  | c :: rest =>
    s.all Char.isDigit && (rest.isEmpty || c != '0') && DecimalNumeral.ofDigits s < UInt64.size

def isPart (s : List Char) : Bool := !s.isEmpty && s.all fun c => c.isAlphanum || c == '-'

def isPreReleasePart (s : List Char) : Bool :=
  isPart s && (!s.all Char.isDigit || s.length == 1 || s.head? != some '0')

/-- A possibly missing text between two separators satisfies a condition on its parts. -/
def allParts (isGood : List Char → Bool) : Option (List Char) → Bool
  | none => true
  | some s => (segments '.' s).all isGood

/-- Three numbers, possibly a pre-release after a hyphen and a build after a plus sign;
the letter v may stand before it all. -/
def isValid (s : List Char) : Bool :=
  let s := match s with
    | 'v' :: r => r
    | r => r
  let (release, build) := match cutAt? '+' s with
    | some (a, b) => (a, some b)
    | none => (s, none)
  let (core, pre) := match cutAt? '-' release with
    | some (a, b) => (a, some b)
    | none => (release, none)
  let numbers := segments '.' core
  numbers.length == 3 && numbers.all isNumber && allParts isPreReleasePart pre
    && allParts isPart build

end Version

namespace Country

def codes : List String :=
  ["AD", "AE", "AF", "AG", "AI", "AL", "AM", "AO", "AQ", "AR", "AS", "AT", "AU", "AW", "AX", "AZ",
    "BA", "BB", "BD", "BE", "BF", "BG", "BH", "BI", "BJ", "BL", "BM", "BN", "BO", "BQ", "BR", "BS",
    "BT", "BV", "BW", "BY", "BZ", "CA", "CC", "CD", "CF", "CG", "CH", "CI", "CK", "CL", "CM", "CN",
    "CO", "CR", "CU", "CV", "CW", "CX", "CY", "CZ", "DE", "DJ", "DK", "DM", "DO", "DZ", "EC", "EE",
    "EG", "EH", "ER", "ES", "ET", "FI", "FJ", "FK", "FM", "FO", "FR", "GA", "GB", "GD", "GE", "GF",
    "GG", "GH", "GI", "GL", "GM", "GN", "GP", "GQ", "GR", "GS", "GT", "GU", "GW", "GY", "HK", "HM",
    "HN", "HR", "HT", "HU", "ID", "IE", "IL", "IM", "IN", "IO", "IQ", "IR", "IS", "IT", "JE", "JM",
    "JO", "JP", "KE", "KG", "KH", "KI", "KM", "KN", "KP", "KR", "KW", "KY", "KZ", "LA", "LB", "LC",
    "LI", "LK", "LR", "LS", "LT", "LU", "LV", "LY", "MA", "MC", "MD", "ME", "MF", "MG", "MH", "MK",
    "ML", "MM", "MN", "MO", "MP", "MQ", "MR", "MS", "MT", "MU", "MV", "MW", "MX", "MY", "MZ", "NA",
    "NC", "NE", "NF", "NG", "NI", "NL", "NO", "NP", "NR", "NU", "NZ", "OM", "PA", "PE", "PF", "PG",
    "PH", "PK", "PL", "PM", "PN", "PR", "PS", "PT", "PW", "PY", "QA", "RE", "RO", "RS", "RU", "RW",
    "SA", "SB", "SC", "SD", "SE", "SG", "SH", "SI", "SJ", "SK", "SL", "SM", "SN", "SO", "SR", "SS",
    "ST", "SV", "SX", "SY", "SZ", "TC", "TD", "TF", "TG", "TH", "TJ", "TK", "TL", "TM", "TN", "TO",
    "TR", "TT", "TV", "TW", "TZ", "UA", "UG", "UM", "US", "UY", "UZ", "VA", "VC", "VE", "VG", "VI",
    "VN", "VU", "WF", "WS", "YE", "YT", "ZA", "ZM", "ZW"]

def isCode (s : String) : Bool := codes.contains s

end Country
end Verdict
