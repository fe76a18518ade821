import CratePlan.Words

/-!
# Reserved words

A module cannot be named by a reserved word as it stands. Most reserved words are
admitted with the raw marker in front; the few that also begin a path are not,
and get an underscore at their end.
-/

namespace CratePlan

/-- Reserved words that may be used with the raw marker in front. -/
def rawKeywords : List String :=
  ["as", "async", "await", "break", "const", "continue", "dyn", "else", "enum", "extern",
    "false", "fn", "for", "if", "impl", "in", "let", "loop", "match", "mod", "move", "mut",
    "pub", "ref", "return", "static", "struct", "trait", "true", "type", "unsafe", "use",
    "where", "while", "abstract", "become", "box", "do", "final", "macro", "override",
    "priv", "try", "typeof", "unsized", "virtual", "yield"]

/-- Reserved words that begin a path, for which the raw marker is refused. -/
def pathKeywords : List String :=
  ["crate", "self", "super", "Self"]

/-- The name in a form that may stand for a module. -/
def escapeKeyword (name : String) : String :=
  if name ∈ pathKeywords then name ++ "_"
  else if name ∈ rawKeywords then "r#" ++ name
  else name

/-- The display of a name, as it is written for a module. -/
def Words.moduleName (words : Words) : String :=
  escapeKeyword words.display

end CratePlan
