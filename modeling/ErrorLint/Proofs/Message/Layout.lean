/-
This file takes templates apart. Rendering looks for marks and cuts the template at them, and
it does so while it writes the message, so it is not plain that a value that looks like a
placeholder is left alone, or that of braces in a row the right ones are marks. Here the two
are kept apart. A layout says where the placeholders of a template are; no values take part in
it, and every template has exactly one layout, however its braces stand. Rendering then shows
the layout from left to right, and each value once.

A mark opens a placeholder if it is the first one, and another mark closes it if it is the
first one after that. The layout ends where no mark that opens has one that closes behind it.
-/

import ErrorLint.Proofs.Message.Template

namespace ErrorLint

/-! ### Placeholders in a row -/

/-- A placeholder of a template with the text in front of it. -/
@[ext]
structure Slot where
  front : List Char
  inner : List Char
  opens : Text.IsFront MessageData.opening front
  closes : Text.IsFront MessageData.closing inner

namespace Slot

/-- How the placeholder is written. -/
def written (slot : Slot) : List Char :=
  MessageData.opening ++ slot.inner ++ MessageData.closing

/-- The name of the value that the placeholder stands for. -/
def name (slot : Slot) : String := String.ofList (Text.trim slot.inner)

/-- How the slot is spelled in a template. -/
def spelling (slot : Slot) : List Char := slot.front ++ slot.written

/-- What the slot shows: the value in place of the placeholder, or the placeholder as it is
written if there is no value. -/
def shown (data : MessageData) (slot : Slot) : List Char :=
  slot.front ++
    match data.get? slot.name with
    | some value => value.render.toList
    | none => slot.written

end Slot

/-- A text in which a placeholder is opened and closed. -/
def Text.HasPlaceholder (text : List Char) : Prop :=
  ∃ front inner back,
    text = front ++ MessageData.opening ++ inner ++ MessageData.closing ++ back

/-- The placeholders of a template from left to right, and the text after the last one. -/
@[ext]
structure TemplateLayout where
  slots : List Slot
  tail : List Char
  ended : ¬Text.HasPlaceholder tail

namespace TemplateLayout

/-- The template that has the layout. -/
def spelling (layout : TemplateLayout) : List Char :=
  layout.slots.flatMap Slot.spelling ++ layout.tail

/-- What the template shows. -/
def shown (data : MessageData) (layout : TemplateLayout) : List Char :=
  layout.slots.flatMap (Slot.shown data) ++ layout.tail

end TemplateLayout

/-! ### Searching for the marks -/

theorem Slot.splitFirst?_opening (slot : Slot) (back : List Char) :
    Text.splitFirst? MessageData.opening (slot.spelling ++ back) =
      some (slot.front, slot.inner ++ MessageData.closing ++ back) := by
  refine Text.splitFirst?_eq_some_iff.mpr ⟨slot.opens, ?_⟩
  simp only [spelling, written, List.append_assoc]

theorem Slot.splitFirst?_closing (slot : Slot) (back : List Char) :
    Text.splitFirst? MessageData.closing (slot.inner ++ MessageData.closing ++ back) =
      some (slot.inner, back) :=
  Text.splitFirst?_eq_some_iff.mpr ⟨slot.closes, rfl⟩

theorem Slot.hasPlaceholder (slot : Slot) (back : List Char) :
    Text.HasPlaceholder (slot.spelling ++ back) := by
  refine ⟨slot.front, slot.inner, back, ?_⟩
  simp only [spelling, written, List.append_assoc]

/-- A template begins with a slot, or there is no placeholder in it. -/
theorem exists_slot_or_not_hasPlaceholder (template : List Char) :
    (∃ (slot : Slot) (back : List Char), template = slot.spelling ++ back) ∨
      ¬Text.HasPlaceholder template := by
  cases opened : Text.splitFirst? MessageData.opening template with
  | none =>
    right
    rintro ⟨front, inner, back, rfl⟩
    refine Text.splitFirst?_eq_none_iff.mp opened ⟨front, inner ++ MessageData.closing ++ back, ?_⟩
    simp only [List.append_assoc]
  | some parts =>
    obtain ⟨front, rest⟩ := parts
    obtain ⟨opens, rfl⟩ := Text.splitFirst?_eq_some_iff.mp opened
    cases closed : Text.splitFirst? MessageData.closing rest with
    | none =>
      right
      rintro ⟨before, inner, back, same⟩
      -- What stands behind a mark that is closed also stands behind the first one.
      have later : inner ++ MessageData.closing ++ back <:+ rest := by
        simp only [List.append_assoc] at same
        refine List.suffix_of_suffix_length_le ⟨before ++ MessageData.opening, ?_⟩
          (List.suffix_append (front ++ MessageData.opening) rest) ?_
        · simp only [List.append_assoc]
          exact same.symm
        · have ordered := @opens.length_le _ _ rest before (inner ++ MessageData.closing ++ back)
            (by simpa only [List.append_assoc] using same)
          have lengths := congrArg List.length same
          simp only [List.length_append] at lengths ⊢
          omega
      exact Text.splitFirst?_eq_none_iff.mp closed
        ((List.infix_append inner MessageData.closing back).trans later.isInfix)
    | some parts =>
      obtain ⟨inner, back⟩ := parts
      obtain ⟨closes, rfl⟩ := Text.splitFirst?_eq_some_iff.mp closed
      refine Or.inl ⟨⟨front, inner, opens, closes⟩, back, ?_⟩
      simp only [Slot.spelling, Slot.written, List.append_assoc]

/-! ### The layout of a template -/

theorem exists_layout (template : List Char) :
    ∃ layout : TemplateLayout, layout.spelling = template := by
  induction template using (measure List.length).wf.induction with
  | h template inductionHypothesis =>
    rcases exists_slot_or_not_hasPlaceholder template with ⟨slot, back, rfl⟩ | ended
    · have shorter : back.length < (slot.spelling ++ back).length := by
        have marks : MessageData.opening.length = 2 := rfl
        simp only [Slot.spelling, Slot.written, List.length_append]
        omega
      obtain ⟨layout, rfl⟩ := inductionHypothesis back shorter
      refine ⟨⟨slot :: layout.slots, layout.tail, layout.ended⟩, ?_⟩
      rw [TemplateLayout.spelling, TemplateLayout.spelling, List.flatMap_cons, List.append_assoc]
    · exact ⟨⟨[], template, ended⟩, rfl⟩

/-- A slot at the beginning of a template is the only one there. -/
theorem Slot.eq_of_append_eq {first second : Slot} {back after : List Char}
    (same : first.spelling ++ back = second.spelling ++ after) :
    first = second ∧ back = after := by
  have opened := first.splitFirst?_opening back
  rw [same, second.splitFirst?_opening after, Option.some.injEq, Prod.mk.injEq] at opened
  obtain ⟨sameFront, sameRest⟩ := opened
  have closed := first.splitFirst?_closing back
  rw [← sameRest, second.splitFirst?_closing after, Option.some.injEq, Prod.mk.injEq] at closed
  exact ⟨Slot.ext sameFront.symm closed.1.symm, closed.2.symm⟩

/-- A template has no other layout. -/
theorem TemplateLayout.eq_of_spelling_eq {first second : TemplateLayout}
    (same : first.spelling = second.spelling) : first = second := by
  obtain ⟨slots, tail, ended⟩ := first
  obtain ⟨others, rest, endedRest⟩ := second
  rw [spelling, spelling] at same
  dsimp only at same
  have equal : slots = others ∧ tail = rest := by
    induction slots generalizing others with
    | nil =>
      cases others with
      | nil => exact ⟨rfl, same⟩
      | cons other more =>
        rw [List.flatMap_nil, List.nil_append, List.flatMap_cons, List.append_assoc] at same
        exact absurd (same ▸ other.hasPlaceholder _) ended
    | cons slot left inductionHypothesis =>
      cases others with
      | nil =>
        rw [List.flatMap_nil, List.nil_append, List.flatMap_cons, List.append_assoc] at same
        exact absurd (same ▸ slot.hasPlaceholder _) endedRest
      | cons other more =>
        simp only [List.flatMap_cons, List.append_assoc] at same
        obtain ⟨rfl, sameLeft⟩ := Slot.eq_of_append_eq same
        obtain ⟨rfl, rfl⟩ := inductionHypothesis more sameLeft
        exact ⟨rfl, rfl⟩
  exact TemplateLayout.ext equal.1 equal.2

/-! ### Rendering a layout -/

namespace MessageData

variable (data : MessageData)

theorem interpolateChars_of_not_hasPlaceholder {template : List Char}
    (ended : ¬Text.HasPlaceholder template) : data.interpolateChars template = template := by
  cases opened : Text.splitFirst? opening template with
  | none => exact data.interpolateChars_of_none opened
  | some parts =>
    obtain ⟨front, rest⟩ := parts
    cases closed : Text.splitFirst? closing rest with
    | none => exact data.interpolateChars_of_unclosed opened closed
    | some parts =>
      obtain ⟨inner, back⟩ := parts
      obtain ⟨opens, rfl⟩ := Text.splitFirst?_eq_some_iff.mp opened
      obtain ⟨closes, rfl⟩ := Text.splitFirst?_eq_some_iff.mp closed
      refine absurd ⟨front, inner, back, ?_⟩ ended
      simp only [List.append_assoc]

/-- A slot shows its value, and what stands behind it is rendered by itself. -/
theorem interpolateChars_slot (slot : Slot) (back : List Char) :
    data.interpolateChars (slot.spelling ++ back) =
      slot.shown data ++ data.interpolateChars back :=
  data.interpolateChars_of_closed (slot.splitFirst?_opening back) (slot.splitFirst?_closing back)

theorem interpolateChars_slots (slots : List Slot) (back : List Char) :
    data.interpolateChars (slots.flatMap Slot.spelling ++ back) =
      slots.flatMap (Slot.shown data) ++ data.interpolateChars back := by
  induction slots with
  | nil => rfl
  | cons slot left inductionHypothesis =>
    rw [List.flatMap_cons, List.flatMap_cons, List.append_assoc, List.append_assoc,
      interpolateChars_slot, inductionHypothesis]

theorem interpolateChars_layout (layout : TemplateLayout) :
    data.interpolateChars layout.spelling = layout.shown data := by
  rw [TemplateLayout.spelling, interpolateChars_slots,
    interpolateChars_of_not_hasPlaceholder data layout.ended]
  rfl

/-- Slots without values show themselves. -/
theorem flatMap_shown_of_unbound {slots : List Slot}
    (unbound : ∀ slot ∈ slots, data.get? slot.name = none) :
    slots.flatMap (Slot.shown data) = slots.flatMap Slot.spelling := by
  refine List.flatMap_congr fun slot member => ?_
  rw [Slot.shown, unbound slot member]
  rfl

/-- A template is rendered as its one layout says, from left to right. A slot at its beginning
shows the value of its name, or the placeholder as it is written, and what stands behind it is
rendered by itself, so no value is read as a template. From the first slot on after which no
name has a value, or after which no placeholder is closed, all stays as it is written. -/
theorem interpolate_layout (template : String) :
    (∃! layout : TemplateLayout, layout.spelling = template.toList) ∧
      (∀ layout : TemplateLayout, layout.spelling = template.toList →
        (data.interpolate template).toList = layout.shown data ∧
          ∀ done left, layout.slots = done ++ left →
            (∀ slot ∈ left, data.get? slot.name = none) →
              (data.interpolate template).toList =
                done.flatMap (Slot.shown data) ++ (left.flatMap Slot.spelling ++ layout.tail)) ∧
      (∀ (slot : Slot) (back : String), template.toList = slot.spelling ++ back.toList →
        (data.interpolate template).toList =
          slot.shown data ++ (data.interpolate back).toList) ∧
      (∀ (done : List Slot) (front rest : List Char), Text.IsFront opening front →
        ¬closing <:+: rest →
          template.toList = done.flatMap Slot.spelling ++ (front ++ opening ++ rest) →
            (data.interpolate template).toList =
              done.flatMap (Slot.shown data) ++ (front ++ opening ++ rest)) := by
  have rendered : ∀ text : String,
      (data.interpolate text).toList = data.interpolateChars text.toList :=
    fun text => String.toList_ofList
  refine ⟨?_, fun layout spelled => ⟨?_, fun done left split unbound => ?_⟩,
    fun slot back spelled => ?_, fun done front rest opens unclosed spelled => ?_⟩
  · obtain ⟨layout, spelled⟩ := exists_layout template.toList
    exact ⟨layout, spelled, fun other same =>
      TemplateLayout.eq_of_spelling_eq (same.trans spelled.symm)⟩
  · rw [rendered, ← spelled, interpolateChars_layout]
  · rw [rendered, ← spelled, interpolateChars_layout, TemplateLayout.shown, split,
      List.flatMap_append, flatMap_shown_of_unbound data unbound, List.append_assoc]
  · rw [rendered, rendered, spelled, interpolateChars_slot]
  · have opened : Text.splitFirst? opening (front ++ opening ++ rest) = some (front, rest) :=
      Text.splitFirst?_eq_some_iff.mpr ⟨opens, rfl⟩
    rw [rendered, spelled, interpolateChars_slots, interpolateChars_of_unclosed data opened
      (Text.splitFirst?_eq_none_iff.mpr unclosed)]

/-- A value that looks like a placeholder is left alone, and of three braces in a row the first
two are a mark. -/
example :
    ((empty.insert "a" (.text "\x7b\x7bb\x7d\x7d")).insert "b" (.count 2)).interpolate
        "\x7b\x7ba\x7d\x7d \x7b\x7b b \x7d\x7d \x7b\x7b\x7ba\x7d\x7d\x7d \x7b\x7b" =
      "\x7b\x7bb\x7d\x7d 2 \x7b\x7b\x7ba\x7d\x7d\x7d \x7b\x7b" := by
  decide +kernel

end MessageData

end ErrorLint
