import Verdict.Errors.Violation
import Verdict.Formats.Colour
import Verdict.Formats.Encoding
import Verdict.Formats.Identifier
import Verdict.Formats.NumberedDocument
import Verdict.Formats.WebAddress
import Verdict.Unicode.LetterCase
import Verdict.Unicode.Property

/-! The named formats of text: what each accepts and what is reported of other text. -/
namespace Verdict

inductive Format where
  | email | url
  | alpha | digit | alphanumeric | letter | numeric | letterNumeric | lowerCase | upperCase
  | ip | ipv4 | ipv6 | mac | subdomain | domain | dnsName | host | port
  | latitude | longitude
  | ssn | semver | uuid | uuidV3 | uuidV4 | uuidV5 | mongoId | creditCard
  | json | ascii | printableAscii
  | e164 | countryCode2 | dataUri | base64 | multibyte
  | hexadecimal | hexColor | rgbColor | int | float
deriving DecidableEq

namespace Format

def all : List Format := [
  email, url, alpha, digit, alphanumeric, letter, numeric, letterNumeric, lowerCase, upperCase,
  ip, ipv4, ipv6, mac, subdomain, domain, dnsName, host, port, latitude, longitude,
  ssn, semver, uuid, uuidV3, uuidV4, uuidV5, mongoId, creditCard, json, ascii, printableAscii,
  e164, countryCode2, dataUri, base64, multibyte, hexadecimal, hexColor, rgbColor, int, float]

def name : Format → String
  | email => "email"
  | url => "url"
  | alpha => "alpha"
  | digit => "digit"
  | alphanumeric => "alphanumeric"
  | letter => "utf_letter"
  | numeric => "utf_numeric"
  | letterNumeric => "utf_letter_numeric"
  | lowerCase => "lower_case"
  | upperCase => "upper_case"
  | ip => "ip"
  | ipv4 => "ipv4"
  | ipv6 => "ipv6"
  | mac => "mac"
  | subdomain => "subdomain"
  | domain => "domain"
  | dnsName => "dns_name"
  | host => "host"
  | port => "port"
  | latitude => "latitude"
  | longitude => "longitude"
  | ssn => "ssn"
  | semver => "semver"
  | uuid => "uuid"
  | uuidV3 => "uuid_v3"
  | uuidV4 => "uuid_v4"
  | uuidV5 => "uuid_v5"
  | mongoId => "mongo_id"
  | creditCard => "credit_card"
  | json => "json"
  | ascii => "ascii"
  | printableAscii => "printable_ascii"
  | e164 => "e164"
  | countryCode2 => "country_code2"
  | dataUri => "data_uri"
  | base64 => "base64"
  | multibyte => "multibyte"
  | hexadecimal => "hexadecimal"
  | hexColor => "hex_color"
  | rgbColor => "rgb_color"
  | int => "int"
  | float => "float"

def ofName? (name : String) : Option Format := all.find? fun f => f.name == name

def message : Format → String
  | email => "must be a valid email address"
  | url => "must be a valid URL"
  | alpha => "must contain English letters only"
  | digit => "must contain digits only"
  | alphanumeric => "must contain English letters and digits only"
  | letter => "must contain unicode letter characters only"
  | numeric => "must contain unicode number characters only"
  | letterNumeric => "must contain unicode letters and numbers only"
  | lowerCase => "must be in lower case"
  | upperCase => "must be in upper case"
  | ip => "must be a valid IP address"
  | ipv4 => "must be a valid IPv4 address"
  | ipv6 => "must be a valid IPv6 address"
  | mac => "must be a valid MAC address"
  | subdomain => "must be a valid subdomain"
  | domain => "must be a valid domain"
  | dnsName => "must be a valid DNS name"
  | host => "must be a valid IP address or DNS name"
  | port => "must be a valid port number"
  | latitude => "must be a valid latitude"
  | longitude => "must be a valid longitude"
  | ssn => "must be a valid social security number"
  | semver => "must be a valid semantic version"
  | uuid => "must be a valid UUID"
  | uuidV3 => "must be a valid UUID v3"
  | uuidV4 => "must be a valid UUID v4"
  | uuidV5 => "must be a valid UUID v5"
  | mongoId => "must be a valid hex-encoded MongoDB ObjectId"
  | creditCard => "must be a valid credit card number"
  | json => "must be in valid JSON format"
  | ascii => "must contain ASCII characters only"
  | printableAscii => "must contain printable ASCII characters only"
  | e164 => "must be a valid E164 number"
  | countryCode2 => "must be a valid two-letter country code"
  | dataUri => "must be a Base64-encoded data URI"
  | base64 => "must be encoded in Base64"
  | multibyte => "must contain multibyte characters"
  | hexadecimal => "must be a valid hexadecimal number"
  | hexColor => "must be a valid hexadecimal color code"
  | rgbColor => "must be a valid RGB color code"
  | int => "must be an integer number"
  | float => "must be a floating point number"

/-- The code of the violation; two formats go by a longer name there. -/
def code (f : Format) : String :=
  "validation_is_" ++ match f with
    | subdomain => "sub_domain"
    | countryCode2 => "country_code_2_letter"
    | f => f.name

def violation (f : Format) : Violation := .plain f.code f.message

def isAllOf (p : Char → Bool) (s : List Char) : Bool := !s.isEmpty && s.all p

def isAscii (c : Char) : Bool := c.toNat < 0x80

def isPrintableAscii (c : Char) : Bool := 0x20 ≤ c.toNat && c.toNat ≤ 0x7e

def letters : ScalarSet := Property.alphabetic .v17

def numerals : ScalarSet := Property.numbers .v17

def isLetter (c : Char) : Bool := letters.contains c

def isNumeric (c : Char) : Bool := numerals.contains c

def accepts (f : Format) (text : String) : Bool :=
  let s := text.toList
  match f with
  | email => NetworkAddress.isEmail text
  | url => WebAddress.isValid s
  | alpha => isAllOf Char.isAlpha s
  | digit => isAllOf Char.isDigit s
  | alphanumeric => isAllOf Char.isAlphanum s
  | letter => isAllOf isLetter s
  | numeric => isAllOf isNumeric s
  | letterNumeric => isAllOf (fun c => isLetter c || isNumeric c) s
  | lowerCase => LetterCase.isLowerText s
  | upperCase => LetterCase.isUpperText s
  | ip => NetworkAddress.isIP s
  | ipv4 => NetworkAddress.isIPv4 s
  | ipv6 => NetworkAddress.isIPv6 s
  | mac => NetworkAddress.isMac s
  | subdomain => HostName.isLabel s
  | domain => HostName.isDomain s
  | dnsName => HostName.isDnsName s
  | host => NetworkAddress.isHost s
  | port => NetworkAddress.isPort s
  | latitude => WrittenNumber.isAngle 90 s
  | longitude => WrittenNumber.isAngle 180 s
  | ssn => SocialSecurityNumber.isValid s
  | semver => Version.isValid s
  | uuid => Uuid.isValid s
  | uuidV3 => Uuid.hasVersion 3 s
  | uuidV4 => Uuid.hasVersion 4 s
  | uuidV5 => Uuid.hasVersion 5 s
  | mongoId => isObjectId s
  | creditCard => CardNumber.isValid s
  | json => (JsonSyntax.read? text).isSome
  | ascii => s.all isAscii
  | printableAscii => s.all isPrintableAscii
  | e164 => PhoneNumber.isE164 s
  | countryCode2 => Country.isCode text
  | dataUri => DataUri.isValid s
  | base64 => Base64.isValid s
  | multibyte => s.any fun c => !isAscii c
  | hexadecimal => WrittenNumber.isHexadecimal s
  | hexColor => Colour.isHex s
  | rgbColor => Colour.isRgb s
  | int => WrittenNumber.isInteger s
  | float => WrittenNumber.isDecimal s

end Format
end Verdict
