import Verdict.Text.Segments

/-! Names of hosts and domains. -/
namespace Verdict
namespace HostName

def isLabelChar (c : Char) : Bool := c.isAlphanum || c == '-'

/-- A label has at most 63 letters, digits and hyphens, with no hyphen at either end. -/
def isLabel (s : List Char) : Bool :=
  match s with
  | [] => false
  | first :: rest =>
    first.isAlphanum && rest.all isLabelChar && rest.getLast?.all Char.isAlphanum
      && s.length ≤ 63

def withoutRoot (s : List Char) : List Char :=
  if s.getLast? == some '.' then s.dropLast else s

/-- Labels joined by points, of 253 characters together, and possibly a trailing point. -/
def isDnsName (s : List Char) : Bool :=
  let name := withoutRoot s
  !name.isEmpty && name.length ≤ 253 && (segments '.' name).all isLabel

def isDomain (s : List Char) : Bool :=
  s.length ≤ 255 && isDnsName s
    && match (segments '.' (withoutRoot s)).reverse with
      | top :: _ :: _ => 2 ≤ top.length && top.all Char.isAlpha
      | _ => false

end HostName
end Verdict
