/-
This file says what a template is. Rendering searches a template for marks, from left to
right, and never asks what the template is made of. Here a template is made of segments:
plain text without a brace, and placeholders with a name without one. Segments have a
spelling, which is the template, and they show something, which is the message; rendering
takes the one to the other, whatever the values are.
-/

import ErrorLint.Message.Data
import ErrorLint.Proofs.Text.Search

namespace ErrorLint

/-! ### The values of a message -/

namespace MessageData

theorem lookup_insertSorted (name asked : String) (value : Datum)
    (entries : List (String × Datum)) :
    (insertSorted name value entries).lookup asked =
      if asked = name then some value else entries.lookup asked := by
  induction entries with
  | nil =>
    rw [insertSorted, List.lookup_cons]
    by_cases same : asked = name
    · rw [if_pos same, same, beq_self_eq_true]
    · rw [if_neg same, beq_false_of_ne same]
  | cons entry rest inductionHypothesis =>
    obtain ⟨other, datum⟩ := entry
    by_cases same : asked = name
    · subst same
      simp only [insertSorted, if_true] at inductionHypothesis ⊢
      split
      · rw [List.lookup_cons, beq_self_eq_true]
      · split
        · rw [List.lookup_cons, beq_self_eq_true]
        · rename_i different
          rw [List.lookup_cons, beq_false_of_ne different]
          exact inductionHypothesis
    · rw [if_neg same] at inductionHypothesis ⊢
      simp only [insertSorted]
      split
      · rw [List.lookup_cons, beq_false_of_ne same]
      · split
        · rename_i equal
          subst equal
          rw [List.lookup_cons, List.lookup_cons, beq_false_of_ne same]
        · rw [List.lookup_cons, List.lookup_cons, inductionHypothesis]

/-- A value that is set is there, and the other values are as before. -/
theorem get?_insert (data : MessageData) (name asked : String) (value : Datum) :
    (data.insert name value).get? asked = if asked = name then some value else data.get? asked :=
  lookup_insertSorted name asked value data.entries

/-- The values have one for the name. -/
def Binds (data : MessageData) (name : String) : Prop := ∃ value, data.get? name = some value

@[simp]
theorem binds_insert {data : MessageData} {name asked : String} {value : Datum} :
    (data.insert name value).Binds asked ↔ asked = name ∨ data.Binds asked := by
  unfold Binds
  rw [get?_insert]
  by_cases same : asked = name
  · simp [same]
  · simp [same]

end MessageData

/-! ### Segments -/

/-- A text without braces. -/
def Text.isBraceless (text : String) : Bool :=
  text.toList.all fun char => char ≠ '\x7b' && char ≠ '\x7d'

theorem Text.notMem_of_isBraceless {text : String} (braceless : isBraceless text = true) :
    '\x7b' ∉ text.toList ∧ '\x7d' ∉ text.toList := by
  rw [isBraceless, List.all_eq_true] at braceless
  constructor
  · intro member
    exact absurd (braceless _ member) (by decide)
  · intro member
    exact absurd (braceless _ member) (by decide)

/-- A part of a template: text that stands for itself, or the name of a value. -/
inductive Segment where
  | text (content : String)
    (braceless : Text.isBraceless content = true := by
      rw [Text.isBraceless, String.toList_ofList]; decide)
  | placeholder (name : String)
    (braceless : Text.isBraceless name = true := by
      rw [Text.isBraceless, String.toList_ofList]; decide)
    (trimmed : Text.trim name.toList = name.toList := by rw [String.toList_ofList]; decide)

namespace Segment

/-- How a segment is written in a template. -/
def spelling : Segment → List Char
  | text content _ => content.toList
  | placeholder name _ _ => MessageData.opening ++ name.toList ++ MessageData.closing

/-- The name of the value that a segment stands for. -/
def name? : Segment → Option String
  | text _ _ => none
  | placeholder name _ _ => some name

/-- What a segment shows. A name without a value is shown as it is written. -/
def shown (data : MessageData) : Segment → List Char
  | text content _ => content.toList
  | placeholder name braceless trimmed =>
    match data.get? name with
    | some value => value.render.toList
    | none => (placeholder name braceless trimmed).spelling

end Segment

namespace MessageData

variable (data : MessageData)

/-! ### Rendering -/

section

variable {template before rest inner after : List Char}

theorem interpolateChars_of_none (unopened : Text.splitFirst? opening template = none) :
    data.interpolateChars template = template := by
  rw [interpolateChars.eq_def]
  split
  · rfl
  · rename_i found
    rw [unopened] at found
    cases found

theorem interpolateChars_of_unclosed
    (opened : Text.splitFirst? opening template = some (before, rest))
    (unclosed : Text.splitFirst? closing rest = none) :
    data.interpolateChars template = template := by
  rw [interpolateChars.eq_def]
  split
  · rfl
  · rename_i found
    rw [opened] at found
    cases found
    split
    · rfl
    · rename_i closed
      rw [unclosed] at closed
      cases closed

theorem interpolateChars_of_closed
    (opened : Text.splitFirst? opening template = some (before, rest))
    (closed : Text.splitFirst? closing rest = some (inner, after)) :
    data.interpolateChars template =
      before ++ data.placeholder inner ++ data.interpolateChars after := by
  rw [interpolateChars.eq_def]
  split
  · rename_i found
    rw [opened] at found
    cases found
  · rename_i found
    rw [opened] at found
    cases found
    split
    · rename_i unclosed
      rw [closed] at unclosed
      cases unclosed
    · rename_i found
      rw [closed] at found
      cases found
      rfl

end

/-- Text without an opening brace is rendered as it is. -/
theorem interpolateChars_append {front : List Char} (absent : '\x7b' ∉ front)
    (template : List Char) :
    data.interpolateChars (front ++ template) = front ++ data.interpolateChars template := by
  have passed : Text.splitFirst? opening (front ++ template) =
      (Text.splitFirst? opening template).map fun parts => (front ++ parts.1, parts.2) :=
    Text.splitFirst?_append_of_notMem ['\x7b'] absent template
  cases found : Text.splitFirst? opening template with
  | none =>
    rw [found] at passed
    rw [interpolateChars_of_none data passed, interpolateChars_of_none data found]
  | some parts =>
    obtain ⟨before, rest⟩ := parts
    rw [found] at passed
    cases closed : Text.splitFirst? closing rest with
    | none =>
      rw [interpolateChars_of_unclosed data passed closed,
        interpolateChars_of_unclosed data found closed]
    | some parts =>
      obtain ⟨inner, after⟩ := parts
      rw [interpolateChars_of_closed data passed closed,
        interpolateChars_of_closed data found closed]
      simp only [List.append_assoc]

/-- A placeholder is rendered as what it shows. -/
theorem interpolateChars_placeholder {name : List Char} (absent : '\x7d' ∉ name)
    (template : List Char) :
    data.interpolateChars (opening ++ name ++ closing ++ template) =
      data.placeholder name ++ data.interpolateChars template := by
  have opened : Text.splitFirst? opening (opening ++ name ++ closing ++ template) =
      some ([], name ++ (closing ++ template)) := by
    rw [List.append_assoc, List.append_assoc]
    exact Text.splitFirst?_append_self ['\x7b', '\x7b'] _
  have closed : Text.splitFirst? closing (name ++ (closing ++ template)) =
      some (name, template) := by
    have passed := Text.splitFirst?_append_of_notMem ['\x7d'] absent (closing ++ template)
    have found := Text.splitFirst?_append_self ['\x7d', '\x7d'] template
    show Text.splitFirst? ['\x7d', '\x7d'] (name ++ (closing ++ template)) = _
    rw [passed, show closing ++ template = ['\x7d', '\x7d'] ++ template from rfl, found]
    simp
  rw [interpolateChars_of_closed data opened closed, List.nil_append]

/-- Rendering a template shows all its segments. -/
theorem interpolateChars_spelling (segments : List Segment) :
    data.interpolateChars (segments.flatMap Segment.spelling) =
      segments.flatMap (Segment.shown data) := by
  induction segments with
  | nil => exact interpolateChars_of_none data rfl
  | cons segment rest inductionHypothesis =>
    rw [List.flatMap_cons, List.flatMap_cons, ← inductionHypothesis]
    cases segment with
    | text content braceless =>
      exact data.interpolateChars_append (Text.notMem_of_isBraceless braceless).1 _
    | placeholder name braceless trimmed =>
      have shows : data.placeholder name.toList =
          (Segment.placeholder name braceless trimmed).shown data := by
        rw [MessageData.placeholder, trimmed, String.ofList_toList]
        rfl
      rw [← shows]
      exact data.interpolateChars_placeholder (Text.notMem_of_isBraceless braceless).2 _

/-- A message is what a template says: every placeholder has a value, and the message is the
template with each placeholder replaced by its value. -/
def Fills (template message : String) : Prop :=
  ∃ segments : List Segment,
    template.toList = segments.flatMap Segment.spelling ∧
      (∀ name ∈ segments.filterMap Segment.name?, data.Binds name) ∧
      message.toList = segments.flatMap (Segment.shown data)

/-- A template whose placeholders have values is rendered to what it says. -/
theorem fills_interpolate {template : String} {segments : List Segment}
    (spelled : template.toList = segments.flatMap Segment.spelling)
    (bound : ∀ name ∈ segments.filterMap Segment.name?, data.Binds name) :
    data.Fills template (data.interpolate template) := by
  refine ⟨segments, spelled, bound, ?_⟩
  rw [interpolate, String.toList_ofList, spelled]
  exact data.interpolateChars_spelling segments

end MessageData

end ErrorLint
