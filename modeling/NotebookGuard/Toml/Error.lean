import NotebookGuard.Toml.Value

/-!
# Showing a TOML error in its text

An error about a span of a document is shown with the line it is on: a
heading with the line and column, the line itself behind a gutter holding its
number, and carets under the span. The column counts characters before the
span on its line when the span starts at a one-byte character, and bytes when
it starts at a wider one; a span at the end of the text stands one past the
last character. The carets cover the span's bytes, at most to the end of the
line and at least one.
-/

namespace NotebookGuard

/-- The bytes of a character in UTF-8. -/
def utf8Width (c : Char) : Nat := c.utf8Size

/-- The bytes of the characters before position `i`. -/
def bytesBefore (cs : Array Char) (i : Nat) : Nat :=
  (cs.toList.take i).foldl (fun n c => n + utf8Width c) 0

/-- The line and column, both from zero, at which a span starting at
character position `start` is shown. -/
def tomlPlace (cs : Array Char) (start : Nat) : Nat × Nat :=
  if cs.isEmpty then (0, bytesBefore cs start)
  else
    let atEnd := cs.size ≤ start
    -- the character the place falls in
    let k := if atEnd then cs.size - 1 else start
    let before := cs.toList.take k
    let lineStart := match before.reverse.findIdx? (· == '\n') with
      | some j => k - j
      | none => 0
    let line := (cs.toList.take lineStart).count '\n'
    let column :=
      if atEnd then k - lineStart + 1
      else if (cs[k]?.map utf8Width).getD 1 == 1 then k - lineStart
      else bytesBefore cs k - bytesBefore cs lineStart
    (line, column)

/-- `n` spaces. -/
def spaces (n : Nat) : String := String.ofList (List.replicate n ' ')

namespace TomlError

/-- The error shown in the document `text`: the place and line when it has a
span, then the message. -/
def render (text : String) (e : TomlError) : String :=
  match e.span with
  | none => e.message ++ "\n"
  | some sp =>
    let cs := text.toList.toArray
    let (line, column) := tomlPlace cs sp.start
    let lineNo := toString (line + 1)
    let gutter := lineNo.length
    let content := ((text.splitOn "\n")[line]?).getD ""
    let width := bytesBefore cs sp.stop - bytesBefore cs sp.start
    let carets := max 1 (min width (content.utf8ByteSize - column))
    "TOML parse error at line " ++ lineNo ++ ", column " ++ toString (column + 1) ++ "\n" ++
      spaces (gutter + 1) ++ "|\n" ++
      lineNo ++ " | " ++ content ++ "\n" ++
      spaces (gutter + 1) ++ "|" ++ spaces (column + 1) ++ String.ofList (List.replicate carets '^') ++ "\n" ++
      e.message ++ "\n"

end TomlError

end NotebookGuard
