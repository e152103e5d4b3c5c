/-
This file finds the patterns that come down to a few literals. They are searched for as
literals, so the size of their automata does not matter.

The leads of a pattern are texts with which its matches start, in the order in which
its branches are tried. A lead is exact if it is a whole match. Where leads would become
too many or too long they are given up or cut, and a cut lead is not exact any more.
Since the first branch that matches wins, a lead that starts with an earlier one is never
needed; so even a pattern with a long repetition can come down to short literals.
-/

import ErrorLint.Pattern.Encoding
import ErrorLint.Pattern.Expr

namespace ErrorLint.Pattern

open Unicode (CharSet)

/-! ### Single leads -/

/-- The bytes with which a match starts, and whether they are all of it. -/
structure Lead where
  bytes : List Nat
  exact : Bool
  deriving Repr, DecidableEq

namespace Lead

def inexact (lead : Lead) : Lead := { lead with exact := false }

/-- The first bytes of a lead. -/
def cut (length : Nat) (lead : Lead) : Lead :=
  if lead.bytes.length ≤ length then lead else ⟨lead.bytes.take length, false⟩

/-- Makes one lead of equal ones that follow each other. It is exact if all of them are. -/
def dedup (leads : List Lead) : List Lead :=
  leads.foldr
    (fun lead later =>
      match later with
      | next :: others =>
        if lead.bytes = next.bytes then ⟨lead.bytes, lead.exact && next.exact⟩ :: others
        else lead :: later
      | [] => [lead])
    []

/-- Drops the leads that start with an earlier one. -/
def minimize (leads : List Lead) : List Lead :=
  leads.foldl
    (fun kept lead =>
      if kept.any fun earlier => earlier.bytes.isPrefixOf lead.bytes then kept
      else kept ++ [lead])
    []

end Lead

/-! ### The leads of a pattern -/

/-- The leads of a pattern, unless there are too many. -/
abbrev Leads := Option (List Lead)

namespace Leads

/-- The most leads that are kept. -/
def maxCount : Nat := 250

/-- The most bytes of a lead that are kept. -/
def maxLength : Nat := 100

/-- The most characters of a set, and the most rounds of a repetition, that are looked at. -/
def maxRounds : Nat := 10

/-- The leads of a pattern whose matches are empty. -/
def ofEmpty : Leads := some [⟨[], true⟩]

def ofLiteral (chars : List Char) : Leads := some [Lead.cut maxLength ⟨encodeAll chars, true⟩]

/-- The leads of a set, unless it has too many characters. -/
def ofSet (chars : CharSet) : Leads :=
  let size := chars.ranges.foldl (fun total range => total + (range.last + 1 - range.first)) 0
  if maxRounds < size then none
  else some (chars.ranges.flatMap fun range =>
    (List.range (range.last + 1 - range.first)).map fun index =>
      ⟨encode (range.first + index), true⟩)

def inexact (leads : Leads) : Leads := leads.map fun leads => leads.map Lead.inexact

/-- Whether no lead can be made longer. -/
def isInexact (leads : Leads) : Bool := (leads.getD []).all fun lead => !lead.exact

/-- What is left of leads if nothing is known of what follows them. -/
def blur (leads : List Lead) : Leads :=
  if leads.any (·.bytes.isEmpty) then none else some (leads.map Lead.inexact)

/-- The leads of one pattern after the other. Only exact leads are made longer. -/
def andThen (first second : Leads) : Leads :=
  if first.isInexact then first
  else
    match first, second with
    | none, _ => none
    | some firsts, none => blur firsts
    | some firsts, some seconds =>
      if maxCount < firsts.length * seconds.length then blur firsts
      else
        let longer := firsts.flatMap fun lead =>
          if lead.exact then seconds.map fun next => ⟨lead.bytes ++ next.bytes, next.exact⟩
          else [lead]
        some ((Lead.dedup longer).map (Lead.cut maxLength))

/-- The leads of one pattern or the other. If they are too many, they are cut to four
bytes before they are given up. -/
def orElse (first second : Leads) : Leads :=
  match first, second with
  | some firsts, some seconds =>
    if firsts.length + seconds.length ≤ maxCount then some (Lead.dedup (firsts ++ seconds))
    else
      let firsts := Lead.dedup (firsts.map (Lead.cut 4))
      let seconds := Lead.dedup (seconds.map (Lead.cut 4))
      if firsts.length + seconds.length ≤ maxCount then some (Lead.dedup (firsts ++ seconds))
      else none
  | _, _ => none

/-- The leads of a pattern a number of times after the given ones. -/
def times (body : Leads) : (count : Nat) → Leads → Leads
  | 0, leads => leads
  | count + 1, leads => times body count (leads.andThen body)

/-- The leads of a repetition. -/
def ofRepetition (body : Leads) (least : Nat) (most : Option Nat) (greedy : Bool) : Leads :=
  if least = 0 then
    let once := if most = some 1 then body else body.inexact
    if greedy then once.orElse ofEmpty else ofEmpty.orElse once
  else
    let leads := times body (min least maxRounds) ofEmpty
    if most = some least && least ≤ maxRounds then leads else leads.inexact

end Leads

/-- What a pattern adds to leads: its own leads, what becomes of the leads of the parts
before it, and what becomes of those of the branches before it. -/
structure Contribution where
  leads : Leads
  after : Leads → Leads
  beside : Leads → Leads

/-- What a pattern adds that is neither a sequence nor a choice. -/
def Contribution.ofLeads (leads : Leads) : Contribution :=
  ⟨leads, (·.andThen leads), (·.orElse leads)⟩

/-- What a pattern adds to leads. The parts of a sequence and the branches of a choice are
added one by one. -/
def Expr.contribution : Expr → Contribution
  | .empty => .ofLeads .ofEmpty
  | .literal chars => .ofLeads (.ofLiteral chars)
  | .set chars => .ofLeads (.ofSet chars)
  | .look _ => .ofLeads .ofEmpty
  | .group _ body => .ofLeads body.contribution.leads
  | .sequence first rest =>
    let after := rest.contribution.after ∘ first.contribution.after
    { Contribution.ofLeads (after .ofEmpty) with after := after }
  | .choice first rest =>
    let beside := rest.contribution.beside ∘ first.contribution.beside
    { Contribution.ofLeads (beside (some [])) with beside := beside }
  | .repetition body least most greedy =>
    .ofLeads (.ofRepetition body.contribution.leads least most greedy)

/-! ### Patterns that are searched for as literals -/

/-- Whether a pattern has neither groups that are counted nor conditions on positions. -/
def Expr.isPlain : Expr → Bool
  | .look _ => false
  | .group _ _ => false
  | .sequence first rest => first.isPlain && rest.isPlain
  | .choice first rest => first.isPlain && rest.isPlain
  | .repetition body _ _ _ => body.isPlain
  | _ => true

namespace Lead

/-- What two lists of bytes start with. -/
def commonStart : List Nat → List Nat → List Nat
  | left :: lefts, right :: rights =>
    if left = right then left :: commonStart lefts rights else []
  | _, _ => []

/-- What all leads start with. -/
def sharedBytes : List Lead → List Nat
  | [] => []
  | first :: rest => rest.foldl (fun shared lead => commonStart shared lead.bytes) first.bytes

/-- Whether a byte with which leads start is so frequent in texts that a search for it alone
would stop too often. -/
def isFrequent (byte : Nat) : Bool :=
  0x80 ≤ byte || "\n\r (),-./0129:_|abcdefghilmnoprstuvxy".toList.any fun char =>
    char.toNat = byte

/-- Cuts leads while they are too many: to so many bytes if there are more than so many. -/
def narrow : List (Nat × Nat) → List Lead → List Lead
  | [], leads => leads
  | (length, most) :: rest, leads =>
    if leads.length ≤ most then leads else narrow rest (minimize (leads.map (cut length)))

/-- Whether exact leads are searched for as a whole. `count` is their number before some
were dropped. Of several leads the search may prefer a rare first byte, a long common
start, or starts that are short and few; then it does not find whole matches. -/
def areSought (count : Nat) (leads : List Lead) : Bool :=
  let shared := sharedBytes leads
  if 1 < count && 0 < shared.length && shared.length ≤ 3 && !shared.head?.any isFrequent then
    leads.all fun lead => lead.bytes.length = 1
  else if 4 < shared.length || (1 < shared.length && 16 < leads.length) then
    leads.length = 1
  else
    let narrowed := narrow [(5, 10), (4, 10), (3, 64), (2, 64), (1, 10)] leads
    narrowed.any (fun lead => lead.bytes.length ≤ 2) || 64 < narrowed.length ||
      narrowed.all (·.exact)

/-- The text of an exact lead. -/
def text? (lead : Lead) : Option (List Char) :=
  (String.fromUTF8? ⟨(lead.bytes.map Nat.toUInt8).toArray⟩).map String.toList

end Lead

/-- The literals to which a pattern comes down, if it is searched for as literals. A text has
a match of the pattern exactly if it has one of the literals in it. -/
def Expr.literals? (expr : Expr) : Option (List (List Char)) := do
  guard expr.isPlain
  let leads ← expr.contribution.leads
  let kept := Lead.minimize leads
  guard (!kept.isEmpty && kept.all fun lead => lead.exact && !lead.bytes.isEmpty)
  guard (Lead.areSought leads.length kept)
  kept.mapM Lead.text?

end ErrorLint.Pattern
