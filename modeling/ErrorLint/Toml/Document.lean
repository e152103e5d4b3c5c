/-
This file says what a TOML document means. A document is a list of assignments for the
root table and a list of sections, each with a heading and assignments of its own. Its
meaning is a table, which grows section by section. Each table of it remembers how it
came to be, since that decides what may still be added to it:

* a table with a heading of its own, or an item of an array of tables, is closed to
  dotted keys from outside;
* a table that a heading passed on its way may get a heading later, and then moves
  behind the other entries of its parent;
* a table made by dotted keys takes further dotted keys, and never a heading.
-/

import ErrorLint.Toml.Value

namespace ErrorLint.Toml

/-- An assignment of a value to a dotted key. -/
structure Assignment where
  path : List String
  value : TomlValue

/-- The heading of a section: that of a table, or of an item of an array of tables. -/
structure Heading where
  isItem : Bool
  path : List String
  deriving Repr, DecidableEq

/-- A section of a document. -/
structure Section where
  heading : Heading
  assignments : List Assignment

/-- A document. -/
structure Document where
  assignments : List Assignment
  sections : List Section

/-- How a table came to be. -/
inductive Origin where
  | heading
  | passage
  | dottedKey
  deriving Repr, DecidableEq

/-- A part of a document under construction. -/
inductive Draft where
  | leaf (value : TomlValue)
  | table (origin : Origin) (entries : List (String × Draft))
  /-- An array of tables: the finished ones and the last one. -/
  | tables (finished : List TomlValue) (last : List (String × Draft))

namespace Draft

mutual

/-- The value that a draft has become. -/
def finish : Draft → TomlValue
  | .leaf value => value
  | .table _ entries => .table (finishEntries entries)
  | .tables finished last => .array (finished ++ [.table (finishEntries last)])

def finishEntries : List (String × Draft) → List (String × TomlValue)
  | [] => []
  | (key, draft) :: rest => (key, draft.finish) :: finishEntries rest

end

/-- Puts a draft in the place of the one that a key has. -/
def replace (key : String) (draft : Draft) (entries : List (String × Draft)) :
    List (String × Draft) :=
  entries.map fun entry => if entry.1 = key then (key, draft) else entry

/-- The entries without those of a key. -/
def erase (key : String) (entries : List (String × Draft)) : List (String × Draft) :=
  entries.filter fun entry => entry.1 ≠ key

/-- Changes the table at a path below the entries of a table. Tables that are missing on
the way are made with the origin `making`. In an array of tables the way leads through
the last one. A dotted key must not lead through a table with a heading. -/
def within (making : Origin)
    (change : Origin → List (String × Draft) → Option (List (String × Draft))) :
    List String → Origin → List (String × Draft) → Option (List (String × Draft))
  | [], origin, entries => change origin entries
  | key :: path, _, entries =>
    match entries.lookup key with
    | none => do
      let inner ← within making change path making []
      return entries ++ [(key, .table making inner)]
    | some (.leaf _) => none
    | some (.table origin inner) =>
      if making = .dottedKey && origin = .heading then none
      else do
        let inner ← within making change path origin inner
        return replace key (.table origin inner) entries
    | some (.tables finished last) => do
      let last ← within making change path .heading last
      return replace key (.tables finished last) entries

/-- Adds an entry, whose key must be new. -/
def add (key : String) (draft : Draft) (entries : List (String × Draft)) :
    Option (List (String × Draft)) :=
  match entries.lookup key with
  | some _ => none
  | none => some (entries ++ [(key, draft)])

/-- Carries out an assignment in the entries of a table. A dotted key must end in a
table that was itself made by dotted keys. -/
def assign (entries : List (String × Draft)) (assignment : Assignment) :
    Option (List (String × Draft)) :=
  match assignment.path.getLast? with
  | none => none
  | some key =>
    let parents := assignment.path.dropLast
    within .dottedKey (fun origin entries =>
      if parents ≠ [] && origin ≠ .dottedKey then none
      else add key (.leaf assignment.value) entries) parents .heading entries

/-- Carries out assignments one after the other. -/
def assignAll (assignments : List Assignment) (entries : List (String × Draft)) :
    Option (List (String × Draft)) :=
  assignments.foldlM assign entries

/-- Opens the table of a heading, with assignments, in the entries of its parent. -/
def openTable (key : String) (assignments : List Assignment) (entries : List (String × Draft)) :
    Option (List (String × Draft)) :=
  match entries.lookup key with
  | none => do
    let inner ← assignAll assignments []
    return entries ++ [(key, .table .heading inner)]
  | some (.table .passage inner) => do
    let inner ← assignAll assignments inner
    return erase key entries ++ [(key, .table .heading inner)]
  | some _ => none

/-- Opens the next item of an array of tables, with assignments, in the entries of its
parent. -/
def openItem (key : String) (assignments : List Assignment) (entries : List (String × Draft)) :
    Option (List (String × Draft)) :=
  match entries.lookup key with
  | none => do
    let inner ← assignAll assignments []
    return entries ++ [(key, .tables [] inner)]
  | some (.tables finished last) => do
    let inner ← assignAll assignments []
    return replace key (.tables (finished ++ [.table (finishEntries last)]) inner) entries
  | some _ => none

/-- Adds a section to the entries of the root table. -/
def addSection (entries : List (String × Draft)) (part : Section) :
    Option (List (String × Draft)) :=
  match part.heading.path.getLast? with
  | none => none
  | some key =>
    within .passage (fun _ entries =>
      if part.heading.isItem then openItem key part.assignments entries
      else openTable key part.assignments entries) part.heading.path.dropLast .heading entries

end Draft

/-- The entries that a list of assignments makes. -/
def entriesOf? (assignments : List Assignment) : Option (List (String × TomlValue)) :=
  (Draft.assignAll assignments []).map Draft.finishEntries

/-- The root table of a document, unless it defines something twice. -/
def Document.entries? (document : Document) : Option (List (String × TomlValue)) := do
  let entries ← Draft.assignAll document.assignments []
  let entries ← document.sections.foldlM Draft.addSection entries
  return Draft.finishEntries entries

end ErrorLint.Toml
