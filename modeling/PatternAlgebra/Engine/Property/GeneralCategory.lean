import PatternAlgebra.Engine.Property.Basic

/-!
# Names of general categories

The general categories and their unions under all of their names. No text holds a surrogate, so
that category has no name here.
-/
namespace PatternAlgebra.Engine.Property

def categories : List (List String × List Category) :=
  [(["lu", "uppercaseletter"], [.upper]), (["ll", "lowercaseletter"], [.lower]),
   (["lt", "titlecaseletter"], [.title]), (["lm", "modifierletter"], [.modifierLetter]),
   (["lo", "otherletter"], [.otherLetter]), (["lc", "casedletter"], [.upper, .lower, .title]),
   (["l", "letter"], [.upper, .lower, .title, .modifierLetter, .otherLetter]),
   (["mn", "nonspacingmark"], [.nonspacingMark]), (["mc", "spacingmark"], [.spacingMark]),
   (["me", "enclosingmark"], [.enclosingMark]),
   (["m", "mark", "combiningmark"], [.nonspacingMark, .spacingMark, .enclosingMark]),
   (["nd", "decimalnumber", "digit"], [.decimalNumber]), (["nl", "letternumber"], [.letterNumber]),
   (["no", "othernumber"], [.otherNumber]),
   (["n", "number"], [.decimalNumber, .letterNumber, .otherNumber]),
   (["pc", "connectorpunctuation"], [.connector]), (["pd", "dashpunctuation"], [.dash]),
   (["ps", "openpunctuation"], [.opening]), (["pe", "closepunctuation"], [.closing]),
   (["pi", "initialpunctuation"], [.initialQuote]), (["pf", "finalpunctuation"], [.finalQuote]),
   (["po", "otherpunctuation"], [.otherPunctuation]),
   (["p", "punctuation", "punct"],
    [.connector, .dash, .opening, .closing, .initialQuote, .finalQuote, .otherPunctuation]),
   (["sm", "mathsymbol"], [.mathSymbol]), (["sc", "currencysymbol"], [.currencySymbol]),
   (["sk", "modifiersymbol"], [.modifierSymbol]), (["so", "othersymbol"], [.otherSymbol]),
   (["s", "symbol"], [.mathSymbol, .currencySymbol, .modifierSymbol, .otherSymbol]),
   (["zs", "spaceseparator"], [.space]), (["zl", "lineseparator"], [.lineSeparator]),
   (["zp", "paragraphseparator"], [.paragraphSeparator]),
   (["z", "separator"], [.space, .lineSeparator, .paragraphSeparator]),
   (["cc", "control", "cntrl"], [.control]), (["cf", "format"], [.format]),
   (["co", "privateuse"], [.privateUse]), (["cn", "unassigned"], [.unassigned]),
   (["c", "other"], [.control, .format, .surrogate, .privateUse, .unassigned])]

/-- The property with the name of a general category, or with a name that is used like one. -/
def ofCategory? (name : Text) : Option Property :=
  if name = "any".toList then some any
  else if name = "ascii".toList then some (codePoints [⟨0, 0x7f, 1⟩])
  else if name = "assigned".toList then some (except any (category [.unassigned]))
  else (lookup? categories name).map category

end PatternAlgebra.Engine.Property
