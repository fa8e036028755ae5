import PatternAlgebra.Text.Basic

/-!
# Expansion of templates

In the engine's own notation for templates `$$` is a dollar sign and a name in braces behind one
stands for what the group with this name has matched. Everything else is copied.
-/
namespace PatternAlgebra.Engine

mutual

/-- What the engine makes of a template, where `group` gives the text of each group. -/
def expand (group : Text → Text) : Text → Text
  | [] => []
  | '$' :: '$' :: t => '$' :: expand group t
  | '$' :: '\x7b' :: t => expandName group [] t
  | c :: t => c :: expand group t

/-- The same inside a name, of which `name` has been read, the last character first. A name that
never ends is copied. -/
def expandName (group : Text → Text) (name : Text) : Text → Text
  | [] => '$' :: '\x7b' :: name.reverse
  | '\x7d' :: t => group name.reverse ++ expand group t
  | c :: t => expandName group (c :: name) t

end

end PatternAlgebra.Engine
