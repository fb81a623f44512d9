/-!
# Variables

A variable is a sigil and a name in braces. The sigil tells whether it stands for one value, for a
list or for a dictionary.
-/

namespace KeywordCatalog.Variable

/-- Whether a character can start a variable. -/
def isSigil (c : Char) : Bool := c == '$' || c == '@' || c == '&'

end KeywordCatalog.Variable
