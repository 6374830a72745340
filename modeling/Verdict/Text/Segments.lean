/-! Text cut at a separator. -/
namespace Verdict

/-- The parts between separators, in order; one more than there are separators. -/
def segments (separator : Char) : List Char → List (List Char)
  | [] => [[]]
  | c :: rest =>
    if c = separator then [] :: segments separator rest
    else
      match segments separator rest with
      | s :: more => (c :: s) :: more
      | [] => [[c]]

def cutAt? (separator : Char) (s : List Char) : Option (List Char × List Char) :=
  match s.dropWhile (· != separator) with
  | _ :: rest => some (s.takeWhile (· != separator), rest)
  | [] => none

end Verdict
