import CrudScaffold.Text.Split

/-!
# Import blocks

The imports of generated code are kept as a list of qualified names such as
`fastapi.Depends`, with repetitions. An import block groups them by module: the name after
the last dot is imported from the module before it, and a name without a module part is
imported as a module itself. The block has one line per module, modules in code-point
order, each with its names in code-point order and without repetition:
`from fastapi import Depends, Request`, or `import json` for a module with no names.
-/

namespace CrudScaffold.Source

/-- One line of an import block: a module and the names taken from it. -/
structure ImportLine where
  module : String
  names : List String
  deriving DecidableEq, Repr

/-- The text of an import line; with no names the module itself is imported. -/
def ImportLine.render (l : ImportLine) : String :=
  if l.names.isEmpty then "import " ++ l.module
  else "from " ++ l.module ++ " import " ++ ", ".intercalate l.names

/-- Code-point order on texts, as a test for sorting. -/
def textLe (a b : String) : Bool := decide (a ≤ b)

/-- The texts of a list, sorted in code-point order, without repetition. -/
def sortedSet (xs : List String) : List String := (xs.mergeSort textLe).eraseDups

/-- The module a qualified name is imported under. -/
def importModule (q : String) : String :=
  let (m, n) := Text.splitLast '.' q
  if m.isEmpty then n else m

/-- The names that the qualified names `qs` import from module `m`. -/
def importedNames (qs : List String) (m : String) : List String :=
  qs.filterMap fun q =>
    let (m', n) := Text.splitLast '.' q
    if !m'.isEmpty && m' == m then some n else none

/-- The lines of the import block for a table of modules and their names. -/
def linesOfTable (table : List (String × List String)) : List ImportLine :=
  (sortedSet (table.map Prod.fst)).map fun m =>
    ⟨m, sortedSet ((table.filter (·.1 == m)).flatMap Prod.snd)⟩

/-- The lines of the import block for a list of qualified names. -/
def importLines (qs : List String) : List ImportLine :=
  (sortedSet (qs.map importModule)).map fun m => ⟨m, sortedSet (importedNames qs m)⟩

/-- The import block of a table of modules and their names. -/
def renderTable (table : List (String × List String)) : String :=
  "\n".intercalate ((linesOfTable table).map ImportLine.render)

/-- The import block of a list of qualified names. -/
def importBlock (qs : List String) : String :=
  "\n".intercalate ((importLines qs).map ImportLine.render)

end CrudScaffold.Source
