import PatternAlgebra.Engine.Property.Age
import PatternAlgebra.Engine.Property.GeneralCategory
import PatternAlgebra.Engine.Property.Script
import PatternAlgebra.Engine.Property.Segmentation

/-!
# Descriptions of properties

What a grammar writes between the braces of `\p{..}`: a property or one of its values by name, or
the name of a property together with a value. There is no answer for a name that means nothing.
-/
namespace PatternAlgebra.Engine.Property

/-- The property with a name of its own, or the value whose name says what it is a value of. -/
def ofName? (name : Text) : Option Property :=
  let name := normalizeName name
  (ofBinary? name <|> ofCategory? name) <|> (Script.ofName? name).map Script.property

/-- The property that has values, under one of its names, and how a value is read. -/
def valued : List (List String × (Text → Option Property)) :=
  [(["gc", "generalcategory"], ofCategory?),
   (["sc", "script"], fun value => (Script.ofName? value).map Script.property),
   (["scx", "scriptextensions"], fun value => (Script.ofName? value).map Script.extensions),
   (["age"], ofAge?),
   (["gcb", "graphemeclusterbreak"], lookup? graphemeBreaks),
   (["sb", "sentencebreak"], lookup? sentenceBreaks),
   (["wb", "wordbreak"], lookup? wordBreaks)]

/-- The property that holds where another one has a value. -/
def ofValue? (key value : Text) : Option Property :=
  (lookup? valued (normalizeName key)).bind fun read => read (normalizeName value)

/-- Cuts a text at a mark, which is left out. -/
def cutAt? (mark : Text) : Text → Option (Text × Text)
  | [] => none
  | c :: t =>
    if mark.isPrefixOf (c :: t) then some ([], (c :: t).drop mark.length)
    else (cutAt? mark t).map fun (before, after) => (c :: before, after)

/-- Reads `name`, `key!=value`, `key:value` and `key=value`. The flag tells whether the property is
to differ from the value. -/
def read? (body : Text) : Option (Property × Bool) :=
  match cutAt? ['!', '='] body with
  | some (key, value) => (ofValue? key value).map (·, true)
  | none =>
    match cutAt? [':'] body <|> cutAt? ['='] body with
    | some (key, value) => (ofValue? key value).map (·, false)
    | none => (ofName? body).map (·, false)

end PatternAlgebra.Engine.Property
