/-
This file writes a lowered tree as a table. Row by row it gives the place of a node,
the number of its parent, and its form over the numbers of its children. The row of
a node stands at the node's own number.
-/

import ErrorLint.Tree.Term

namespace ErrorLint

/-- One row of a table. -/
structure Row where
  place : Place
  parent : Option Nat
  form : Form Nat
  deriving Repr, DecidableEq

namespace SourceTree

/-- The number of every child, with the number of the node to which it belongs. -/
def parents (tree : SourceTree) : List (Nat × Nat) :=
  tree.nodes.flatMap fun node => node.children.map fun child => (child.id, node.id)

/-- The rows of a tree in the order of the numbers. -/
def rows (tree : SourceTree) : List Row :=
  let parents := tree.parents
  tree.nodes.map fun node =>
    ⟨node.place, parents.lookup node.id, node.form.map Node.id⟩

end SourceTree

end ErrorLint
