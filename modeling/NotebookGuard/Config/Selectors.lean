import NotebookGuard.Json.Decode

/-!
# Chart selectors

The page check counts, for each chart library, the page elements that prove a
chart of it was mounted. Each library has its own list of selectors; a list
left out of a configuration keeps its default.
-/

namespace NotebookGuard

/-- The selectors counted for each library. -/
structure UiSelectors where
  altair : List String := ["[role=\"graphics-document\"]"]
  plotly : List String := ["div.js-plotly-plot"]
  bokeh : List String := [".bk-root"]
  matplotlib : List String := ["canvas", "img"]

namespace UiSelectors

/-- Library tag to its selectors, sorted by tag. -/
def byLibrary (s : UiSelectors) : List (String × List String) :=
  [("altair", s.altair), ("bokeh", s.bokeh), ("matplotlib", s.matplotlib), ("plotly", s.plotly)]

end UiSelectors

namespace Reader

/-- Selectors; every list may be left out. -/
def uiSelectors : Reader UiSelectors :=
  record "UiSelectors" {} [
    { name := "altair", read := fun s => do return { s with altair := ← list string } },
    { name := "plotly", read := fun s => do return { s with plotly := ← list string } },
    { name := "bokeh", read := fun s => do return { s with bokeh := ← list string } },
    { name := "matplotlib", read := fun s => do return { s with matplotlib := ← list string } }]

end Reader

end NotebookGuard
