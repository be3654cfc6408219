import NotebookGuard.Text.Blank

/-!
# Flags in the environment

A flag is read from text trimmed of blanks, in any case of ASCII letters:
`1`, `true`, `yes`, `on` are true, `0`, `false`, `no`, `off` are false, and
anything else is no flag at all.
-/

namespace NotebookGuard

/-- The flag a text stands for, if any. -/
def parseFlag (raw : String) : Option Bool :=
  let t := asciiLower (trimBlanks raw)
  if t == "1" || t == "true" || t == "yes" || t == "on" then some true
  else if t == "0" || t == "false" || t == "no" || t == "off" then some false
  else none

end NotebookGuard
