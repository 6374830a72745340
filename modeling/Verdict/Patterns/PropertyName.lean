import Verdict.Unicode.Segmentation

/-! Properties of characters by their names: the sets that patterns can ask for. -/
namespace Verdict
namespace PropertyName

def plain (name : List Char) : List Char :=
  (name.filter fun c => c != ' ' && c != '_' && c != '-' && c.toNat < 0x80).map Char.toLower

/-- A name in the form in which names are compared. The word in front that says no more
than that the property holds is left out, unless nothing but a letter `c` is left. -/
def folded (name : List Char) : String :=
  let rest := plain (name.drop 2)
  if (name.take 2).map Char.toLower != ['i', 's'] then String.ofList (plain name)
  else if rest == ['c'] then "isc"
  else String.ofList rest

def category (g : GeneralCategory) : ScalarSet := g.membersIn .v16

def category? : String → Option ScalarSet
  | "any" => some .everything
  | "assigned" => some (category .unassigned).complement
  | "ascii" => some (.range 0 0x7f)
  | "l" | "letter" => some (Property.letters .v16)
  | "lc" | "casedletter" => some (Property.casedLetters .v16)
  | "lu" | "uppercaseletter" => some (category .uppercaseLetter)
  | "ll" | "lowercaseletter" => some (category .lowercaseLetter)
  | "lt" | "titlecaseletter" => some (category .titlecaseLetter)
  | "lm" | "modifierletter" => some (category .modifierLetter)
  | "lo" | "otherletter" => some (category .otherLetter)
  | "m" | "mark" | "combiningmark" => some (Property.marks .v16)
  | "mn" | "nonspacingmark" => some (category .nonspacingMark)
  | "mc" | "spacingmark" => some (category .spacingMark)
  | "me" | "enclosingmark" => some (category .enclosingMark)
  | "n" | "number" => some (Property.numbers .v16)
  | "nd" | "decimalnumber" | "digit" => some ScalarSet.decimalDigit
  | "nl" | "letternumber" => some (category .letterNumber)
  | "no" | "othernumber" => some (category .otherNumber)
  | "p" | "punctuation" | "punct" => some (Property.punctuation .v16)
  | "pc" | "connectorpunctuation" => some (category .connectorPunctuation)
  | "pd" | "dashpunctuation" => some (category .dashPunctuation)
  | "ps" | "openpunctuation" => some (category .openPunctuation)
  | "pe" | "closepunctuation" => some (category .closePunctuation)
  | "pi" | "initialpunctuation" => some (category .initialPunctuation)
  | "pf" | "finalpunctuation" => some (category .finalPunctuation)
  | "po" | "otherpunctuation" => some (category .otherPunctuation)
  | "s" | "symbol" => some (Property.symbols .v16)
  | "sm" | "mathsymbol" => some (category .mathSymbol)
  | "sc" | "currencysymbol" => some (category .currencySymbol)
  | "sk" | "modifiersymbol" => some (category .modifierSymbol)
  | "so" | "othersymbol" => some (category .otherSymbol)
  | "z" | "separator" => some (Property.separators .v16)
  | "zs" | "spaceseparator" => some (category .spaceSeparator)
  | "zl" | "lineseparator" => some (category .lineSeparator)
  | "zp" | "paragraphseparator" => some (category .paragraphSeparator)
  | "c" | "other" => some (Property.otherCategories .v16)
  | "cc" | "control" | "cntrl" => some (category .control)
  | "cf" | "format" => some (category .format)
  | "cn" | "unassigned" => some (category .unassigned)
  | "co" | "privateuse" => some (category .privateUse)
  | _ => none

/-- The values that an edition and those before it assign: `15.1` is also written `v15_1`. -/
def assignedBy? (edition : String) : Option ScalarSet :=
  let isNamed := fun a : String × ScalarSet =>
    edition == a.1 || edition == "v" ++ String.ofList (a.1.toList.filter (· != '.'))
  match Edition.additions.dropWhile fun a => !isNamed a with
  | [] => none
  | a :: _ =>
    some (.unions (a.2 :: (Edition.additions.takeWhile fun a => !isNamed a).map Prod.snd))

def members? (name : List Char) : Option ScalarSet :=
  let name := folded name
  (BinaryProperty.named? name <|> category? name) <|> Script.named? name

def valueMembers? (name value : List Char) : Option ScalarSet :=
  let value := folded value
  match folded name with
  | "gc" | "generalcategory" => category? value
  | "sc" | "script" => Script.named? value
  | "scx" | "scriptextensions" => Script.usedIn? value
  | "age" => assignedBy? value
  | "gcb" | "graphemeclusterbreak" => Segmentation.grapheme? value
  | "wb" | "wordbreak" => Segmentation.word? value
  | "sb" | "sentencebreak" => Segmentation.sentence? value
  | _ => none

end PropertyName
end Verdict
