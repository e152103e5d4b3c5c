/-
This file measures patterns. A pattern is only accepted if the automaton that would
search for it byte by byte is small enough, both the one that reads a text forwards and
the one that reads it backwards. A state takes 32 bytes, and more for the list of
transitions that some states have.

The automaton is laid out as its states are counted: every part of a pattern adds its
states and tells whether its last state is a fork, since a fork lists where it leads
and one more entry is added when it is linked to what comes next. Only sets of
characters beyond ASCII depend on what was laid out before. They share states, and to
share one it must be remembered; the memory has a fixed number of places, the place of
a state follows from the numbers of the states that it leads to, and a newer state takes
the place of an older one.
-/

import ErrorLint.Pattern.Encoding
import ErrorLint.Pattern.Expr
import Std.Data.HashMap

namespace ErrorLint.Pattern

open Unicode (CharSet)

/-- The two ways to read a text. -/
inductive Direction where
  | forward
  | backward
  deriving Repr, DecidableEq

/-- What was laid out so far: the number of states, and the bytes of their lists. -/
structure Tally where
  states : Nat
  listed : Nat
  deriving Repr, DecidableEq

/-- The bytes in all. -/
def Tally.bytes (tally : Tally) : Nat := 32 * tally.states + tally.listed

/-- The most bytes that an automaton may take. -/
def maxBytes : Nat := 10 * 0x100000

/-- A tally, if it is not too large. -/
def Tally.checked (tally : Tally) : Option Tally :=
  if tally.bytes ≤ maxBytes then some tally else none

/-- A step of the layout. It ends without a result when the automaton is too large. -/
abbrev Layout (α : Type) := Tally → Option (α × Tally)

namespace Layout

/-- Adds states and the bytes of their lists. -/
def addStates (states listed : Nat) (tally : Tally) : Option Tally :=
  Tally.checked ⟨tally.states + states, tally.listed + listed⟩

/-- Links a last state to what comes next. -/
def link (isFork : Bool) (tally : Tally) : Option Tally :=
  if isFork then addStates 0 4 tally else some tally

/-! ### Sets of characters -/

/-- Mixes a number into the number of a place. -/
def mix (hash : UInt64) (value : Nat) : UInt64 := (hash ^^^ value.toUInt64) * 1099511628211

/-- The place of some numbers in a memory. -/
def placeOf (places : UInt64) (values : List Nat) : UInt64 :=
  values.foldl mix 14695981039346656037 % places

/-- What is remembered of states: at every place the numbers that decide it and the state. -/
abbrev Memory := Std.HashMap UInt64 (List Nat × Nat)

/-- The state of the given numbers, if it is remembered. -/
def remembered? (memory : Memory) (place : UInt64) (key : List Nat) : Option Nat :=
  match memory.get? place with
  | some (found, state) => if found = key then some state else none
  | none => none

/-- Lays out one sequence of ranges of bytes from its end, the first byte last read, and
gives the state that is reached. -/
def layoutSequence (tally : Tally) (memory : Memory) (next : Nat) :
    List ByteRange → Option (Tally × Memory)
  | [] => some (tally, memory)
  | range :: rest =>
    let key := [next, range.first, range.last]
    let place := placeOf 1000 key
    match remembered? memory place key with
    | some state => layoutSequence tally memory state rest
    | none =>
      match addStates 1 0 tally with
      | none => none
      | some more => layoutSequence more (memory.insert place (key, tally.states)) tally.states rest

/-- Lays out the sequences one after the other. A fork leads to each of them. -/
def layoutSequences (target : Nat) (tally : Tally) (memory : Memory) :
    List (List ByteRange) → Option Tally
  | [] => some tally
  | sequence :: rest =>
    match layoutSequence tally memory target sequence with
    | none => none
    | some (tally, memory) =>
      match addStates 0 4 tally with
      | none => none
      | some tally => layoutSequences target tally memory rest

/-- A state that leads to others by ranges of bytes. A state is given by its place in a
list of nodes where it comes after all states that it leads to; zero is the end. -/
abbrev Node := List (ByteRange × Nat)

/-- Adds the nodes of sequences to those before them, sequences with the same start on one
node, and gives the place of their own. No sequence is longer than `depth`. -/
def addNodes : (depth : Nat) → List (List ByteRange) → StateM (Array Node) Nat
  | 0, _ => return 0
  | depth + 1, sequences => do
    let runs := sequences.splitBy fun left right => left.head? = right.head?
    let node ← runs.filterMapM fun run => do
      match run with
      | (range :: rest) :: _ =>
        if rest.isEmpty then return some (range, 0)
        else return some (range, ← addNodes depth (run.map List.tail))
      | _ => return none
    modifyGet fun nodes => (nodes.size + 1, nodes.push node)

/-- The nodes of a set. -/
def nodesOf (set : CharSet) : List Node :=
  ((addNodes 4 (sequencesOf set)).run #[]).2.toList

/-- Lays out nodes. The states of the nodes before them are known. -/
def layoutNodes (tally : Tally) (memory : Memory) (known : Array Nat) :
    List Node → Option Tally
  | [] => some tally
  | node :: rest =>
    let key := node.flatMap fun (range, child) => [range.first, range.last, known.getD child 0]
    let place := placeOf 10000 key
    match remembered? memory place key with
    | some state => layoutNodes tally memory (known.push state) rest
    | none =>
      match addStates 1 (8 * node.length) tally with
      | none => none
      | some more =>
        layoutNodes more (memory.insert place (key, tally.states)) (known.push tally.states) rest

/-! ### Plans -/

/-- How a part of a pattern is laid out, and its bytes if it is a literal. The layout tells
whether the last state is a fork. -/
structure Plan where
  lay : Layout Bool
  literal? : Option (List Nat)

/-- A part with a fixed number of states whose last one is no fork. -/
def Plan.fixed (states listed : Nat) : Plan :=
  ⟨fun tally => (addStates states listed tally).map (false, ·), none⟩

/-- The layout of a set. -/
def planSet (direction : Direction) (set : CharSet) : Plan :=
  if set.ranges.all (·.last < 0x80) then .fixed 2 (8 * set.ranges.length)
  else
    match direction with
    | .backward =>
      let sequences := sequencesOf set
      ⟨fun tally => do
        let opened ← addStates 2 0 tally
        return (false, ← layoutSequences (tally.states + 1) opened {} sequences), none⟩
    | .forward =>
      let nodes := nodesOf set
      ⟨fun tally => do
        let opened ← addStates 1 0 tally
        return (false, ← layoutNodes opened {} #[tally.states] nodes), none⟩

/-- Lays out two parts one after the other. -/
def Plan.andThen (first second : Plan) : Plan :=
  ⟨fun tally => do
    let (isFork, tally) ← first.lay tally
    let (result, tally) ← second.lay tally
    return (result, ← link isFork tally), none⟩

/-! ### Choices between literals -/

/-- Cuts a list of literals at those that are empty. At the start, several of those count as
one. -/
def chunksOf (literals : List (List Nat)) : List (List (List Nat)) :=
  let kept :=
    match literals with
    | [] :: rest => [] :: rest.dropWhile List.isEmpty
    | literals => literals
  kept.foldr
    (fun literal chunks =>
      match literal, chunks with
      | [], chunks => [] :: chunks
      | literal, chunk :: chunks => (literal :: chunk) :: chunks
      | literal, [] => [[literal]])
    [[]]

/-- The states of a tree of literals and the bytes of their lists: for every node a state for
each of its chunks and a fork over them. Nodes without a way on are left out. No literal is
longer than `fuel`. -/
def treeCost : (fuel : Nat) → List (List Nat) → Nat × Nat
  | 0, _ => (0, 0)
  | fuel + 1, literals =>
    let chunks := chunksOf literals
    let below := chunks.flatMap fun chunk =>
      (chunk.filterMap List.head?).eraseDups.map fun byte =>
        let tails := (chunk.filter (·.head? = some byte)).map List.tail
        if tails.all List.isEmpty then (0, 0) else treeCost fuel tails
    let own := chunks.map fun chunk =>
      match (chunk.filterMap List.head?).eraseDups.length with
      | 0 => (0, 0)
      | 1 => (1, 0)
      | count => (1, 8 * count)
    let ways := (own.map (·.1)).sum + (chunks.length - 1)
    (((below ++ own).map (·.1)).sum + 1, ((below ++ own).map (·.2)).sum + 4 * ways)

/-- The layout of a choice between literals, as a tree. -/
def planLiterals (direction : Direction) (literals : List (List Nat)) : Plan :=
  let read := match direction with
    | .forward => literals
    | .backward => literals.map List.reverse
  let (states, listed) := treeCost ((literals.map List.length).foldl max 0 + 1) read
  .fixed (states + 1) listed

/-- Lays out further branches of a choice. A fork leads to each of them. -/
def layoutBranches (tally : Tally) : List Plan → Option Tally
  | [] => some tally
  | plan :: rest => do
    let (isFork, tally) ← plan.lay tally
    layoutBranches (← link isFork (← addStates 0 4 tally)) rest

/-- The layout of a choice. The fork comes after its first two branches. -/
def planChoice (direction : Direction) : List Plan → Plan
  | [] => .fixed 1 0
  | [plan] => plan
  | first :: second :: rest =>
    match (first :: second :: rest).mapM (·.literal?) with
    | some literals => planLiterals direction literals
    | none =>
      ⟨fun tally => do
        let (firstFork, tally) ← first.lay tally
        let (secondFork, tally) ← second.lay tally
        let tally ← addStates 2 8 tally
        let tally ← link secondFork (← link firstFork tally)
        return (false, ← layoutBranches tally rest), none⟩

/-! ### Repetitions -/

/-- Lays out a body `count` more times, each linked to the one before. -/
def layoutMore (body : Plan) : (count : Nat) → (isFork : Bool) → Layout Bool
  | 0, isFork, tally => some (isFork, tally)
  | count + 1, isFork, tally =>
    match body.lay tally with
    | none => none
    | some (next, tally) =>
      match link isFork tally with
      | none => none
      | some tally => layoutMore body count next tally

/-- Lays out a body `count` times. -/
def layoutTimes (body : Plan) : (count : Nat) → Layout Bool
  | 0, tally => (addStates 1 0 tally).map (false, ·)
  | count + 1, tally =>
    match body.lay tally with
    | none => none
    | some (isFork, tally) => layoutMore body count isFork tally

/-- Lays out a body up to `count` times more. A fork before each time leads to the end too. -/
def layoutOptional (body : Plan) : (count : Nat) → (isFork : Bool) → Tally → Option Tally
  | 0, isFork, tally => link isFork tally
  | count + 1, isFork, tally =>
    match addStates 1 0 tally with
    | none => none
    | some tally =>
      match body.lay tally with
      | none => none
      | some (next, tally) =>
        match link isFork tally with
        | none => none
        | some tally =>
          match addStates 0 8 tally with
          | none => none
          | some tally => layoutOptional body count next tally

/-- The layout of a repetition. -/
def planRepetition (body : Plan) (needsText : Bool) (least : Nat) (most : Option Nat) : Plan :=
  let lay : Layout Bool :=
    match least, most with
    | 0, some 1 => fun tally => do
      let (isFork, tally) ← body.lay (← addStates 1 0 tally)
      return (false, ← link isFork (← addStates 1 8 tally))
    | 0, none =>
      if needsText then fun tally => do
        let (isFork, tally) ← body.lay (← addStates 1 0 tally)
        return (true, ← link isFork (← addStates 0 4 tally))
      else fun tally => do
        let (isFork, tally) ← body.lay tally
        return (false, ← link isFork (← addStates 3 16 tally))
    | 1, none => fun tally => do
      let (isFork, tally) ← body.lay tally
      return (true, ← link isFork (← addStates 1 4 tally))
    | count + 2, none => fun tally => do
      let (firstFork, tally) ← layoutTimes body (count + 1) tally
      let (lastFork, tally) ← body.lay tally
      let tally ← addStates 1 4 tally
      return (true, ← link lastFork (← link firstFork tally))
    | least, some most =>
      if least = most then layoutTimes body least
      else fun tally => do
        let (isFork, tally) ← layoutTimes body least tally
        return (false, ← layoutOptional body (most - least) isFork (← addStates 1 0 tally))
  ⟨lay, none⟩

/-! ### Patterns -/

/-- The layouts of the branches of a pattern; a pattern that is no choice has one. Groups are
marked on the way forward only. -/
def branchPlans (direction : Direction) : Expr → List Plan
  | .empty => [.fixed 1 0]
  | .literal chars =>
    let bytes := encodeAll chars
    [{ Plan.fixed bytes.length 0 with literal? := some bytes }]
  | .set chars => [planSet direction chars]
  | .look _ => [.fixed 1 0]
  | .group _ body =>
    let inner := planChoice direction (branchPlans direction body)
    match direction with
    | .backward => [{ inner with literal? := none }]
    | .forward => [(Plan.fixed 1 0).andThen (inner.andThen (.fixed 1 0))]
  | .sequence first rest =>
    let left := planChoice direction (branchPlans direction first)
    let right := planChoice direction (branchPlans direction rest)
    match direction with
    | .forward => [left.andThen right]
    | .backward => [right.andThen left]
  | .choice first rest => branchPlans direction first ++ branchPlans direction rest
  | .repetition body least most _ =>
    let inner := planChoice direction (branchPlans direction body)
    [planRepetition inner (body.shortest?.any (0 < ·)) least most]

/-- The layout of a pattern. -/
def plan (direction : Direction) (expr : Expr) : Plan :=
  planChoice direction (branchPlans direction expr)

end Layout

open Layout

/-- The size of the automaton of a pattern, if it is not too large. Before the pattern stands
a loop over any bytes, unless the pattern is held to the end of the text where reading
starts. -/
def Expr.tally? (direction : Direction) (expr : Expr) : Option Tally := do
  let anchored := match direction with
    | .forward => expr.startsText
    | .backward => expr.endsText
  let whole := match direction with
    | .forward => (plan direction (.group 0 expr))
    | .backward => plan direction expr
  let start ← if anchored then addStates 1 0 ⟨0, 0⟩ else addStates 3 16 ⟨0, 0⟩
  let (isFork, tally) ← whole.lay start
  link isFork (← addStates 1 0 tally)

/-- Whether the automata of a pattern are small enough. -/
def Expr.isCompact (expr : Expr) : Bool :=
  (expr.tally? .forward).isSome && (expr.tally? .backward).isSome

end ErrorLint.Pattern
