import Verdict.Unicode.Property

/-! Text in double quotes, in which every character without a visible form of its own is escaped. -/
namespace Verdict
namespace QuotedText

/-- Characters without a visible form of their own: all that is unassigned, steers the
text or leaves a gap, except the space, and marks, which show on the character before
them. The halfwidth voicing marks take a place of their own. -/
def invisible : ScalarSet :=
  (ScalarSet.unions [
    (Property.otherCategories .v17).union (Property.separators .v17), Property.defaultIgnorable,
    Property.graphemeExtend .v17]).diff ((ScalarSet.single ' ').union (.range 0xff9e 0xff9f))

def codePoint (c : Char) : List Char :=
  ['\\', 'u', '\x7b'] ++ Nat.toDigits 16 c.toNat ++ ['\x7d']

def escape (c : Char) : List Char :=
  match c with
  | '\x00' => ['\\', '0']
  | '\t' => ['\\', 't']
  | '\n' => ['\\', 'n']
  | '\r' => ['\\', 'r']
  | '"' => ['\\', '"']
  | '\\' => ['\\', '\\']
  | c =>
    if c.toNat < 0x7f && 0x20 ≤ c.toNat then [c]
    else if invisible.contains c then codePoint c
    else [c]

end QuotedText

def quoted (s : String) : String :=
  String.ofList ('"' :: s.toList.flatMap QuotedText.escape ++ ['"'])

end Verdict
