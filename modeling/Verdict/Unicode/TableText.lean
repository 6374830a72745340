/-! Tables written as text: groups of hexadecimal numbers, with blanks between the groups. -/
namespace Verdict
namespace TableText

/-- What has been read: the groups before the current one and its numbers, the last
first, and whether the last of these has begun. -/
structure State where
  groups : List (List Nat)
  numbers : List Nat
  begun : Bool

def digit (c : Char) : Nat := if c.isDigit then c.toNat - '0'.toNat else c.toNat - 'a'.toNat + 10

def State.finish (s : State) : State :=
  if s.numbers.isEmpty then s else ⟨s.numbers.reverse :: s.groups, [], false⟩

/-- Letters and digits belong to a number, blanks part groups, and any other character
parts the numbers of a group. -/
def State.next (s : State) (c : Char) : State :=
  if c == ' ' || c == '\n' then s.finish
  else if !c.isAlphanum then { s with begun := false }
  else
    match s.begun, s.numbers with
    | true, n :: ns => { s with numbers := (n * 16 + digit c) :: ns }
    | _, ns => { s with numbers := digit c :: ns, begun := true }

def groups (table : String) : List (List Nat) :=
  (table.foldl State.next ⟨[], [], false⟩).finish.groups.reverse

end TableText
end Verdict
