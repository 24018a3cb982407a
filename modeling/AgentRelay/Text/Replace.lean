/-! Replacing every occurrence of a pattern in a text, from left to right and without overlaps. -/
namespace AgentRelay.Text

/-- The characters to pass over belong to an occurrence that has been replaced. -/
def replaceFrom (pattern replacement : List Char) : (pass : Nat) → List Char → List Char
  | _, [] => []
  | pass + 1, _ :: rest => replaceFrom pattern replacement pass rest
  | 0, c :: rest =>
    if pattern.isPrefixOf (c :: rest) then
      replacement ++ replaceFrom pattern replacement (pattern.length - 1) rest
    else c :: replaceFrom pattern replacement 0 rest

/-- The pattern is not empty. -/
def replace (pattern replacement : List Char) (s : List Char) : List Char :=
  replaceFrom pattern replacement 0 s

end AgentRelay.Text
