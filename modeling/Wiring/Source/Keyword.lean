/-!
# Reserved words

The words that cannot serve as names, neither in a source text nor as generated variables.
-/

namespace Wiring.Source

/-- The reserved words. -/
def keywords : List String :=
  ["False", "None", "True", "and", "as", "assert", "async", "await", "break", "class", "continue",
    "def", "del", "elif", "else", "except", "finally", "for", "from", "global", "if", "import",
    "in", "is", "lambda", "nonlocal", "not", "or", "pass", "raise", "return", "try", "while",
    "with", "yield"]

/-- The word is reserved: `is_keyword`. -/
def isKeyword (s : String) : Bool := keywords.contains s

end Wiring.Source
