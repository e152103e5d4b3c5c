/-
This file groups the places where a message is used with an error class. Classes stand in
the order in which they were first seen, the messages of a class likewise, and the places of
a pair in the order in which they came. At both levels a table says at which slot a key is
found, so nothing is searched for among the entries themselves.
-/

namespace ErrorLint

/-! ### Entries that are found by their slots -/

/-- Entries in the order in which their keys were first seen, and for every key that was seen
the slot of its entry. -/
structure Slotted (Entry : Type) where
  slots : List (String × Nat)
  entries : List Entry
  deriving Repr, DecidableEq

namespace Slotted

variable {Entry : Type}

def empty : Slotted Entry := ⟨[], []⟩

/-- The slot of a key. A key that has none yet is given the next one, in which an entry is
opened. -/
def slotFor (index : Slotted Entry) (key : String) (opened : Entry) : Nat × Slotted Entry :=
  match index.slots.lookup key with
  | some slot => (slot, index)
  | none =>
    (index.entries.length,
      ⟨(key, index.entries.length) :: index.slots, index.entries ++ [opened]⟩)

/-- Changes the entry at the slot of a key, which is opened first if the key is new. -/
def update (index : Slotted Entry) (key : String) (opened : Entry) (change : Entry → Entry) :
    Slotted Entry :=
  let (slot, index) := index.slotFor key opened
  { index with entries := index.entries.modify slot change }

end Slotted

/-! ### Classes and messages -/

/-- All the sites at which one class is used with one message. -/
structure MessageGroup (Site : Type) where
  errorClass : String
  message : String
  sites : List Site
  deriving Repr, DecidableEq

/-- The messages of one class. -/
abbrev ClassEntry (Site : Type) := Slotted (MessageGroup Site)

/-- The classes with their messages. -/
structure Occurrences (Site : Type) where
  classes : Slotted (ClassEntry Site)
  deriving Repr, DecidableEq

namespace Occurrences

variable {Site : Type}

/-- Nothing seen yet. -/
def empty : Occurrences Site := ⟨Slotted.empty⟩

/-- Records one use of a message with a class. -/
def insert (index : Occurrences Site) (errorClass message : String) (site : Site) :
    Occurrences Site where
  classes := index.classes.update errorClass Slotted.empty fun entry =>
    entry.update message ⟨errorClass, message, []⟩ fun group =>
      { group with sites := group.sites ++ [site] }

/-- The pairs used at least `threshold` times. -/
def repeated (index : Occurrences Site) (threshold : Nat) : List (MessageGroup Site) :=
  (index.classes.entries.flatMap (·.entries)).filter fun group => threshold ≤ group.sites.length

end Occurrences

end ErrorLint
