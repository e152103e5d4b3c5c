/-
This file reads patterns. The notation is that of most regular expression tools, with
classes that can be nested and combined, and with flags that hold for the rest of a
group; it has neither look-around nor references back to a group. Groups that are open
are kept on a stack, and so are the brackets of nested classes, so reading is one walk
through the text that ends at the first fault.
-/

import ErrorLint.Pattern.Footprint
import ErrorLint.Pattern.Lead
import ErrorLint.StringLiteral
import ErrorLint.Text.Blank
import ErrorLint.Unicode.CaseFolding

namespace ErrorLint.Pattern

open Unicode (CharSet)

/-- The flags in force at a place of a pattern. -/
structure Flags where
  ignoreCase : Bool
  multiLine : Bool
  dotMatchesLineEnd : Bool
  unicode : Bool
  ignoreBlanks : Bool
  anyLineEnd : Bool
  /-- Whether the marks of greedy and lazy repetitions are exchanged. -/
  lazyFirst : Bool
  deriving Repr, DecidableEq

def Flags.defaults : Flags := ⟨false, false, false, true, false, false, false⟩

/-- How far reading has come: the text that is left, the flags in force, the names of the
groups so far, and the number of groups that are counted. -/
structure State where
  rest : List Char
  flags : Flags
  names : List String
  groups : Nat

/-- A step of reading. A fault ends it without a result. -/
abbrev Reader := StateT State Option

namespace Reader

/-! ### Characters -/

def flags : Reader Flags := return (← get).flags

/-- The next character, which is a fault at the end of the text. -/
def current : Reader Char := do
  match (← get).rest with
  | char :: _ => return char
  | [] => failure

def atEnd : Reader Bool := return (← get).rest.isEmpty

def advance : Reader Unit := modify fun state => { state with rest := state.rest.drop 1 }

/-- Whether the text goes on with the given one. -/
def startsWith (text : String) : Reader Bool :=
  return text.toList.isPrefixOf (← get).rest

/-- Passes over the given text if it comes next. -/
def skipIf (text : String) : Reader Bool := do
  if ← startsWith text then
    modify fun state => { state with rest := state.rest.drop text.length }
    return true
  else
    return false

/-- The text after blanks and after comments, which run from a number sign to the end of
the line. -/
def withoutBlanks (comment : Bool) : List Char → List Char
  | [] => []
  | char :: rest =>
    if comment then withoutBlanks (char ≠ '\n') rest
    else if Text.isBlank char then withoutBlanks false rest
    else if char = '#' then withoutBlanks true rest
    else char :: rest

/-- Passes over blanks and comments, if the flags say so. -/
def skipBlanks : Reader Unit := do
  if (← flags).ignoreBlanks then
    modify fun state => { state with rest := withoutBlanks false state.rest }

/-- Passes over a character and the blanks after it. -/
def advanceBlanks : Reader Unit := do
  advance
  skipBlanks

/-- The character after the next one. -/
def peek? : Reader (Option Char) := return (← get).rest[1]?

/-- The character after the next one, blanks and number signs passed over if the flags
say so. -/
def peekBlanks? : Reader (Option Char) := do
  let rest := (← get).rest.drop 1
  if (← flags).ignoreBlanks then
    match rest.dropWhile Text.isBlank with
    | '#' :: rest => return (rest.dropWhile Text.isBlank).head?
    | rest => return rest.head?
  else
    return rest.head?

/-! ### Escapes -/

/-- What a single element of a pattern can be. -/
inductive Primitive where
  /-- A character, and whether it is written as a byte of two hexadecimal digits. -/
  | literal (char : Char) (isByte : Bool)
  | set (set : CharSet)
  | look (look : Look)
  | dot

/-- The character of a code point. -/
def characterOf (code : Nat) : Reader Char :=
  if code.isValidChar then return Char.ofNat code else failure

/-- Reads a fixed number of hexadecimal digits. -/
def fixedHex : (count value : Nat) → Reader Nat
  | 0, value => return value
  | count + 1, value => do
    match StringLiteral.hexDigit? (← current) with
    | some digit =>
      advanceBlanks
      fixedHex count (value * 16 + digit)
    | none => failure

/-- Reads hexadecimal digits up to a closing brace; `fuel` bounds their number. -/
def bracedHex : (fuel : Nat) → List Nat → Reader (List Nat)
  | 0, _ => failure
  | fuel + 1, digits => do
    let char ← current
    if char = '\x7d' then
      advanceBlanks
      return digits.reverse
    else
      match StringLiteral.hexDigit? char with
      | some digit =>
        advanceBlanks
        bracedHex fuel (digit :: digits)
      | none => failure

/-- Reads what follows the letter of a numeric escape. -/
def hexEscape (count : Nat) (isByte : Bool) : Reader Primitive := do
  advanceBlanks
  if (← current) = '\x7b' then
    advanceBlanks
    let digits ← bracedHex ((← get).rest.length + 1) []
    guard (!digits.isEmpty)
    return .literal (← characterOf (digits.foldl (fun value digit => value * 16 + digit) 0)) false
  else
    return .literal (← characterOf (← fixedHex count 0)) isByte

/-- Reads the name of a set up to a closing brace; `fuel` bounds its length. -/
def bracedName : (fuel : Nat) → List Char → Reader (List Char)
  | 0, _ => failure
  | fuel + 1, name => do
    let char ← current
    if char = '\x7d' then
      advance
      return name.reverse
    else
      advanceBlanks
      bracedName fuel (char :: name)

/-- The set of a name between braces: a name that stands alone, or a property and its
value. The flag tells whether the complement is meant. -/
def namedSet (name : List Char) : Reader (CharSet × Bool) := do
  let found : Option (CharSet × Bool) :=
    match Text.splitFirst? ['!', '='] name with
    | some (property, value) => (CharSet.ofValue? property value).map (·, true)
    | none =>
      match Text.splitFirst? [':'] name with
      | some (property, value) => (CharSet.ofValue? property value).map (·, false)
      | none =>
        match Text.splitFirst? ['='] name with
        | some (property, value) => (CharSet.ofValue? property value).map (·, false)
        | none => (CharSet.ofName? name).map (·, false)
  match found with
  | some result => return result
  | none => failure

/-- The set up to case, if the flags say so. -/
def foldIf (set : CharSet) : Reader CharSet := do
  let flags ← flags
  if flags.ignoreCase then return if flags.unicode then set.folded else set.asciiFolded
  else return set

/-- The complement of a set, if that is wanted. Without Unicode a complement would hold
single bytes that are no characters, which is a fault. -/
def negateSet (negated : Bool) (set : CharSet) : Reader CharSet := do
  guard (!negated || (← flags).unicode)
  return set.negateIf negated

/-- Reads what follows the letter of a named set. -/
def propertyEscape (negated : Bool) : Reader Primitive := do
  advanceBlanks
  let (named, differs) ←
    if (← current) = '\x7b' then do
      advanceBlanks
      namedSet (← bracedName ((← get).rest.length + 1) [])
    else do
      let char ← current
      guard (char ≠ '\\')
      advanceBlanks
      namedSet [char]
  guard (← flags).unicode
  return .set (← negateSet (negated != differs) (← foldIf named))

/-- The set of a one-letter name. -/
def letterSet (letter : Char) : Reader Primitive := do
  advance
  let unicode := (← flags).unicode
  let set : CharSet :=
    match letter.toLower with
    | 'd' => if unicode then digits else asciiDigits
    | 's' => if unicode then blanks else asciiBlanks
    | _ => if unicode then words else asciiWords
  return .set (← negateSet letter.isUpper set)

/-- The characters with a meaning of their own, which an escape takes away. -/
def isMeta (char : Char) : Bool :=
  char ∈ ['\\', '.', '+', '*', '?', '(', ')', '|', '[', ']', '\x7b', '\x7d', '^', '$', '#', '&',
    '-', '~']

/-- The characters that may be escaped without need: those of ASCII that are neither
letters nor digits nor angle brackets. -/
def isEscapable (char : Char) : Bool :=
  isMeta char || (char.toNat < 0x80 && !char.isAlphanum && char ≠ '<' && char ≠ '>')

/-- The word characters under the flags. -/
def wordKind : Reader WordKind := return if (← flags).unicode then .unicode else .ascii

def isBoundaryLetter (char : Char) : Bool := char.isAlpha || char = '-'

/-- Reads the letters of a special word boundary; `fuel` bounds their number. -/
def boundaryLetters : (fuel : Nat) → List Char → Reader (List Char)
  | 0, _ => failure
  | fuel + 1, name => do
    let char ← current
    if isBoundaryLetter char then
      advanceBlanks
      boundaryLetters fuel (char :: name)
    else
      return name.reverse

/-- Reads what may follow the letter of a word boundary: a name in braces. Braces that
hold no name are left for a repetition. -/
def boundaryEscape : Reader Look := do
  let words ← wordKind
  let start ← get
  if start.rest.head? = some '\x7b' then
    advanceBlanks
    if isBoundaryLetter (← current) then
      let name ← boundaryLetters ((← get).rest.length + 1) []
      guard ((← current) = '\x7d')
      advance
      match String.ofList name with
      | "start" => return .wordStart words
      | "end" => return .wordEnd words
      | "start-half" => return .notAfterWord words
      | "end-half" => return .notBeforeWord words
      | _ => failure
    else
      set start
      return .boundary words
  else
    return .boundary words

/-- Reads an escape, which starts at a backslash. -/
def escape : Reader Primitive := do
  advance
  let letter ← current
  match letter with
  | 'x' => hexEscape 2 true
  | 'u' => hexEscape 4 false
  | 'U' => hexEscape 8 false
  | 'p' => propertyEscape false
  | 'P' => propertyEscape true
  | 'd' | 's' | 'w' | 'D' | 'S' | 'W' => letterSet letter
  | letter =>
    advance
    if isEscapable letter then return .literal letter false
    else
      match letter with
      | 'a' => return .literal '\x07' false
      | 'f' => return .literal '\x0c' false
      | 't' => return .literal '\t' false
      | 'n' => return .literal '\n' false
      | 'r' => return .literal '\r' false
      | 'v' => return .literal '\x0b' false
      | 'A' => return .look .textStart
      | 'z' => return .look .textEnd
      | 'b' => return .look (← boundaryEscape)
      | 'B' => return .look (.notBoundary (← wordKind))
      | '<' => return .look (.wordStart (← wordKind))
      | '>' => return .look (.wordEnd (← wordKind))
      | _ => failure

/-! ### Classes -/

/-- A set inside a class, and how deep it is nested. -/
structure ClassItem where
  set : CharSet
  depth : Nat

/-- The ways to combine two sets of a class. -/
inductive ClassOperator where
  | intersection
  | difference
  | symmetricDifference

/-- What a class is waiting for: the end of a nested class, to go on with the items around
it, or the right side of an operator. -/
inductive ClassFrame where
  | bracket (items : List ClassItem) (negated : Bool)
  | operator (operator : ClassOperator) (left : ClassItem)

/-- The deeper of several items. -/
def deepest (depths : List Nat) : Nat := depths.foldl max 0

/-- The union of the items of a class. -/
def unionItem : List ClassItem → ClassItem
  | [] => ⟨.none, 0⟩
  | [item] => item
  | items => ⟨.unions (items.map (·.set)), deepest (items.map (·.depth)) + 1⟩

/-- Applies an operator that waits for its right side. -/
def applyOperator (stack : List ClassFrame) (right : ClassItem) :
    Reader (List ClassFrame × ClassItem) := do
  match stack with
  | .operator operator left :: stack =>
    let first ← foldIf left.set
    let second ← foldIf right.set
    let set : CharSet :=
      match operator with
      | .intersection => first.intersection second
      | .difference => first.difference second
      | .symmetricDifference => first.symmetricDifference second
    return (stack, ⟨set, max left.depth right.depth + 1⟩)
  | stack => return (stack, right)

/-- A character as an item. Without Unicode a class holds ASCII only. -/
def literalItem (char : Char) (isByte : Bool) : Reader ClassItem := do
  guard ((← flags).unicode || (char.toNat < 0x80 && !(isByte && 0x80 ≤ char.toNat)))
  return ⟨.single char, 0⟩

/-- Reads an element of a class: an escape, or a character as it is. -/
def classPrimitive : Reader Primitive := do
  let char ← current
  if char = '\\' then escape
  else
    advance
    return .literal char false

/-- Reads an element of a class, or a range between two characters. -/
def classRange : Reader ClassItem := do
  let first ← classPrimitive
  skipBlanks
  let next ← current
  let after ← peekBlanks?
  if next ≠ '-' || after = some ']' || after = some '-' then
    match first with
    | .literal char isByte => literalItem char isByte
    | .set set => return ⟨set, 0⟩
    | _ => failure
  else
    advanceBlanks
    let last ← (do let _ ← current; classPrimitive)
    match first, last with
    | .literal first firstByte, .literal last lastByte =>
      let _ ← literalItem first firstByte
      let _ ← literalItem last lastByte
      guard (first ≤ last)
      return ⟨.range first.toNat last.toNat, 0⟩
    | _, _ => failure

/-- Reads hyphens at the start of a class; `fuel` bounds their number. -/
def leadingHyphens : (fuel : Nat) → List ClassItem → Reader (List ClassItem)
  | 0, _ => failure
  | fuel + 1, items => do
    if (← current) = '-' then
      advanceBlanks
      leadingHyphens fuel (⟨.single '-', 0⟩ :: items)
    else
      return items

/-- Reads the start of a class: a mark of negation, and hyphens or a closing bracket that
stand for themselves there. -/
def openClass : Reader (List ClassItem × Bool) := do
  advanceBlanks
  let negated := (← current) = '^'
  if negated then advanceBlanks
  let items ← leadingHyphens ((← get).rest.length + 1) []
  if items.isEmpty && (← current) = ']' then
    advanceBlanks
    let _ ← current
    return ([⟨.single ']', 0⟩], negated)
  else
    return (items, negated)

/-- Reads a set of ASCII characters by its name between colons. Where there is none,
nothing is read. -/
def asciiClass? : Reader (Option ClassItem) := do
  let start ← get
  match start.rest with
  | '[' :: ':' :: rest =>
    let (negated, rest) : Bool × List Char :=
      match rest with
      | '^' :: rest => (true, rest)
      | rest => (false, rest)
    match Text.splitFirst? [':'] rest with
    | some (name, ']' :: rest) =>
      match asciiNamed? (String.ofList name) with
      | some named =>
        set { start with rest := rest }
        return some ⟨← negateSet negated (← foldIf named), 0⟩
      | none => return none
    | _ => return none
  | _ => return none

/-- Reads a class; `fuel` bounds the number of its elements. -/
def classItems : (fuel : Nat) → List ClassFrame → List ClassItem → Reader ClassItem
  | 0, _, _ => failure
  | fuel + 1, stack, items => do
    skipBlanks
    let char ← current
    let second ← peek?
    let operator? : Option ClassOperator :=
      if char = '&' && second = some '&' then some .intersection
      else if char = '-' && second = some '-' then some .difference
      else if char = '~' && second = some '~' then some .symmetricDifference
      else none
    match operator? with
    | some operator =>
      advance
      advance
      let (stack, left) ← applyOperator stack (unionItem items.reverse)
      classItems fuel (.operator operator left :: stack) []
    | none =>
      if char = '[' then
        match ← asciiClass? with
        | some item => classItems fuel stack (item :: items)
        | none =>
          let (inner, negated) ← openClass
          classItems fuel (.bracket items negated :: stack) inner
      else if char = ']' then
        let (stack, whole) ← applyOperator stack (unionItem items.reverse)
        advance
        match stack with
        | .bracket outer negated :: stack =>
          let set ← negateSet negated (← foldIf whole.set)
          let item : ClassItem := ⟨set, whole.depth + 1⟩
          if stack.isEmpty then return item else classItems fuel stack (item :: outer)
        | _ => failure
      else
        classItems fuel stack ((← classRange) :: items)

/-- Reads a class, which starts at a bracket. -/
def bracketClass : Reader ClassItem := do
  let (items, negated) ← openClass
  classItems ((← get).rest.length + 1) [.bracket [] negated] items

/-! ### Groups and flags -/

/-- A part of a pattern, how deep it is nested, and whether it can be repeated. -/
structure Item where
  expr : Expr
  depth : Nat
  repeatable : Bool

/-- The letter of a flag and what it sets. -/
def setFlag (letter : Char) (value : Bool) (flags : Flags) : Option Flags :=
  match letter with
  | 'i' => some { flags with ignoreCase := value }
  | 'm' => some { flags with multiLine := value }
  | 's' => some { flags with dotMatchesLineEnd := value }
  | 'U' => some { flags with lazyFirst := value }
  | 'u' => some { flags with unicode := value }
  | 'R' => some { flags with anyLineEnd := value }
  | 'x' => some { flags with ignoreBlanks := value }
  | _ => none

/-- Reads flags up to a colon or a closing parenthesis: letters, each at most once, and
at most one hyphen, after which letters switch off. The letters read so far are `seen`. -/
def readFlags : (fuel : Nat) → (seen : List Char) → Flags → Reader (List Char × Flags)
  | 0, _, _ => failure
  | fuel + 1, seen, flags => do
    let char ← current
    if char = ':' || char = ')' then
      guard (seen.head? ≠ some '-')
      return (seen, flags)
    else
      guard (!seen.contains char)
      advance
      if char = '-' then readFlags fuel (char :: seen) flags
      else
        match setFlag char (!seen.contains '-') flags with
        | some flags => readFlags fuel (char :: seen) flags
        | none => failure

/-- The digits and the other numbers of all scripts. -/
def numbers : CharSet := Unicode.categories ["Nd", "Nl", "No"]

/-- Whether a character may stand in the name of a group. -/
def isNameChar (first : Bool) (char : Char) : Bool :=
  char = '_' || Unicode.alphabetic.holds char.toNat ||
    (!first && (char ∈ ['.', '[', ']'] || numbers.holds char.toNat))

/-- Reads the name of a group up to an angle bracket. -/
def groupName : Reader Unit := do
  let state ← get
  match Text.splitFirst? ['>'] state.rest with
  | some (first :: more, rest) =>
    let name := String.ofList (first :: more)
    guard (isNameChar true first && more.all (isNameChar false) && !state.names.contains name)
    set { state with rest := rest, names := name :: state.names }
  | _ => failure

/-- What an opening parenthesis can start: a group, which has a number if it is counted, or
flags for the rest of the group around it. -/
inductive Opening where
  | group (index? : Option Nat) (flags : Flags)
  | flags (flags : Flags)

/-- The number of a group that is counted. -/
def nextGroup : Reader Nat :=
  modifyGet fun state => (state.groups + 1, { state with groups := state.groups + 1 })

/-- Reads an opening parenthesis and what belongs to it. -/
def opening : Reader Opening := do
  advanceBlanks
  let flags ← flags
  if (← startsWith "?=") || (← startsWith "?!") || (← startsWith "?<=") || (← startsWith "?<!") then
    failure
  else if (← skipIf "?P<") || (← skipIf "?<") then
    groupName
    return .group (← nextGroup) flags
  else if ← skipIf "?" then
    let (seen, changed) ← readFlags ((← get).rest.length + 1) [] flags
    let last ← current
    advance
    if last = ')' then
      guard (!seen.isEmpty)
      return .flags changed
    else
      return .group none changed
  else
    return .group (← nextGroup) flags

/-! ### Repetitions -/

/-- Reads a number, which may stand between blanks; `fuel` bounds its digits. -/
def digitsOf : (fuel : Nat) → List Char → Reader (List Char)
  | 0, _ => failure
  | fuel + 1, digits => do
    match (← get).rest with
    | char :: _ =>
      if char.isDigit then
        advanceBlanks
        digitsOf fuel (char :: digits)
      else
        return digits.reverse
    | [] => return digits.reverse

def dropBlanks : Reader Unit :=
  modify fun state => { state with rest := state.rest.dropWhile Text.isBlank }

/-- Reads a count of 32 bits, if there is one. -/
def count? : Reader (Option Nat) := do
  dropBlanks
  let digits ← digitsOf ((← get).rest.length + 1) []
  dropBlanks
  skipBlanks
  if digits.isEmpty then return none
  else
    let value := digits.foldl (fun value digit => value * 10 + (digit.toNat - '0'.toNat)) 0
    guard (value < 0x100000000)
    return some value

/-- Reads the bounds of a counted repetition, which starts at a brace. -/
def bounds : Reader (Nat × Option Nat) := do
  advanceBlanks
  let _ ← current
  let least ← count?
  if (← current) = ',' then
    advanceBlanks
    if (← current) = '\x7d' then
      return (← least, none)
    else
      let least ← least
      let most ← (← count?)
      guard ((← current) = '\x7d' && least ≤ most)
      return (least, some most)
  else
    let least ← least
    guard ((← current) = '\x7d')
    return (least, some least)

/-- Repeats the last item. A question mark after the repetition makes it lazy. -/
def repeatLast (least : Nat) (most : Option Nat) : List Item → Reader (List Item)
  | item :: items => do
    let marked ← skipIf "?"
    let greedy := marked == (← flags).lazyFirst
    return ⟨item.expr.repeated least most greedy, item.depth + 1, true⟩ :: items
  | [] => failure

/-- That the last item can be repeated. -/
def guardRepeatable (items : List Item) : Reader Unit := guard (items.head?.any (·.repeatable))

/-! ### Whole patterns -/

/-- The parts of a group that are read so far: the items of its last branch and its
earlier branches, both with the latest first. -/
structure Layer where
  items : List Item
  branches : List Item

/-- A group that is open: what stands before it, the flags to go back to, and its number if
it is counted. -/
structure Frame where
  outer : Layer
  flags : Flags
  index? : Option Nat

/-- The item of a group that is complete. -/
def Frame.close (frame : Frame) (inner : Item) : Item :=
  let expr := match frame.index? with
    | some index => .group index inner.expr
    | none => inner.expr
  ⟨expr, inner.depth + 1, true⟩

/-- One after the other. -/
def joinItems : List Item → Item
  | [] => ⟨.empty, 0, true⟩
  | [item] => item
  | items => ⟨.concat (items.map (·.expr)), deepest (items.map (·.depth)) + 1, true⟩

/-- One or the other. -/
def joinBranches : List Item → Item
  | [] => ⟨.empty, 0, true⟩
  | [item] => item
  | items => ⟨.alternation (items.map (·.expr)), deepest (items.map (·.depth)) + 1, true⟩

/-- The item of a layer that is complete. -/
def Layer.close (layer : Layer) : Item :=
  joinBranches ((joinItems layer.items.reverse :: layer.branches).reverse)

/-- Adds an item to a layer. -/
def Layer.push (layer : Layer) (item : Item) : Layer :=
  { layer with items := item :: layer.items }

/-- The characters that a dot stands for. Without Unicode it would match single bytes,
which is a fault. -/
def dotSet : Reader CharSet := do
  let flags ← flags
  guard flags.unicode
  if flags.dotMatchesLineEnd then return .all
  else if flags.anyLineEnd then return ((CharSet.single '\n').union (.single '\r')).complement
  else return (CharSet.single '\n').complement

/-- The item of a single element. -/
def primitiveItem (primitive : Primitive) : Reader Item := do
  match primitive with
  | .literal char isByte =>
    guard ((← flags).unicode || !isByte || char.toNat < 0x80)
    if (← flags).ignoreCase then return ⟨.ofSet (← foldIf (.single char)), 0, true⟩
    else return ⟨.literal [char], 0, true⟩
  | .set set => return ⟨.ofSet set, 0, true⟩
  | .look look => return ⟨.look look, 0, true⟩
  | .dot => return ⟨.ofSet (← dotSet), 0, true⟩

/-- Reads a single element of a pattern. -/
def primitive : Reader Primitive := do
  let char ← current
  let flags ← flags
  match char with
  | '\\' => escape
  | '.' => advance; return .dot
  | '^' =>
    advance
    return .look (if !flags.multiLine then .textStart
      else if flags.anyLineEnd then .anyLineStart else .lineStart)
  | '$' =>
    advance
    return .look (if !flags.multiLine then .textEnd
      else if flags.anyLineEnd then .anyLineEnd else .lineEnd)
  | char => advance; return .literal char false

/-- Reads a pattern to its end; `fuel` bounds the number of its elements. -/
def items : (fuel : Nat) → List Frame → Layer → Reader Item
  | 0, _, _ => failure
  | fuel + 1, stack, layer => do
    skipBlanks
    if ← atEnd then
      guard stack.isEmpty
      return layer.close
    match ← current with
    | '(' =>
      let before ← flags
      match ← opening with
      | .flags flags =>
        modify fun state => { state with flags := flags }
        items fuel stack (layer.push ⟨.empty, 0, false⟩)
      | .group index? flags =>
        modify fun state => { state with flags := flags }
        items fuel (⟨layer, before, index?⟩ :: stack) ⟨[], []⟩
    | ')' =>
      match stack with
      | [] => failure
      | frame :: stack =>
        let group := layer.close
        modify fun state => { state with flags := frame.flags }
        advance
        items fuel stack (frame.outer.push (frame.close group))
    | '|' =>
      advance
      items fuel stack ⟨[], joinItems layer.items.reverse :: layer.branches⟩
    | '[' =>
      let item ← bracketClass
      items fuel stack (layer.push ⟨.ofSet item.set, item.depth, true⟩)
    | '?' =>
      guardRepeatable layer.items
      advance
      items fuel stack { layer with items := ← repeatLast 0 (some 1) layer.items }
    | '*' =>
      guardRepeatable layer.items
      advance
      items fuel stack { layer with items := ← repeatLast 0 none layer.items }
    | '+' =>
      guardRepeatable layer.items
      advance
      items fuel stack { layer with items := ← repeatLast 1 none layer.items }
    | '\x7b' =>
      guardRepeatable layer.items
      let (least, most) ← bounds
      advanceBlanks
      items fuel stack { layer with items := ← repeatLast least most layer.items }
    | _ =>
      let item ← primitiveItem (← primitive)
      items fuel stack (layer.push item)

end Reader

/-- The deepest nesting that a pattern may have. -/
def maxDepth : Nat := 250

/-- Reads a pattern. One that is too large must come down to literals. -/
def read? (text : List Char) : Option Expr := do
  let start : State := ⟨text, Flags.defaults, [], 0⟩
  let (item, _) ← (Reader.items (text.length + 1) [] ⟨[], []⟩).run start
  guard (item.depth ≤ maxDepth)
  if item.expr.isCompact then
    return item.expr
  let literals ← item.expr.literals?
  return .alternation (literals.map .literal)

end ErrorLint.Pattern
