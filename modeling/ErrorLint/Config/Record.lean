/-
This file reads records. A record is given by entries for its fields, which are read in
their order, or by a list of its fields in the order of their declaration; fields that
are not given keep what they have. The first fault decides.
-/

import ErrorLint.Config.Mismatch

namespace ErrorLint

/-! ### Steps that may fail -/

/-- Of two steps the second one goes on with what the first one has made. -/
theorem bind_eq_ok_iff {ε α β : Type} {first : Except ε α} {next : α → Except ε β} {result : β} :
    first >>= next = .ok result ↔ ∃ middle, first = .ok middle ∧ next middle = .ok result := by
  cases first with
  | error fault => exact ⟨nofun, fun ⟨_, failed, _⟩ => nomatch failed⟩
  | ok middle => exact ⟨fun done => ⟨middle, rfl, done⟩, fun ⟨_, rfl, done⟩ => done⟩

theorem map_eq_ok_iff {ε α β : Type} {first : Except ε α} {change : α → β} {result : β} :
    first.map change = .ok result ↔ ∃ content, first = .ok content ∧ change content = result := by
  cases first <;> simp [Except.map]

theorem map_eq_error_iff {ε α β : Type} {first : Except ε α} {change : α → β} {fault : ε} :
    first.map change = .error fault ↔ first = .error fault := by
  cases first <;> simp [Except.map]

theorem mapError_eq_ok_iff {ε δ α : Type} {first : Except ε α} {change : ε → δ} {result : α} :
    first.mapError change = .ok result ↔ first = .ok result := by
  cases first with
  | error fault => exact ⟨nofun, nofun⟩
  | ok content =>
    exact ⟨fun done => congrArg Except.ok (Except.ok.inj done),
      fun done => congrArg Except.ok (Except.ok.inj done)⟩

/-! ### Records -/

/-- A field of a record: its name, and how a value for it changes the record. -/
structure RecordField (Source Record : Type) where
  name : String
  set : Source → Record → Except Mismatch Record

namespace RecordField

variable {Source Record : Type}

/-- A field whose value is read by `read` and stored by `store`. -/
def of {α : Type} (name : String) (read : Source → Except Mismatch α)
    (store : α → Record → Record) : RecordField Source Record :=
  ⟨name, fun value record => (read value).map fun field => store field record⟩

/-- Reads named values into a record. -/
def readEntries (fields : List (RecordField Source Record)) :
    List (String × Source) → Record → Except Mismatch Record
  | [], record => .ok record
  | (key, value) :: rest, record =>
    match fields.find? (·.name = key) with
    | some field => do readEntries fields rest (← field.set value record)
    | none => .error (.unknownField key (fields.map (·.name)))

/-- Reads values into the fields of a record, as far as both go. -/
def readItems :
    List (RecordField Source Record) → List Source → Record → Except Mismatch Record
  | field :: fields, value :: rest, record => do readItems fields rest (← field.set value record)
  | _, _, record => .ok record

end RecordField

/-- What a source gives a record: values for named fields, values in the order of the
fields, or nothing of the kind. -/
inductive Layout (Source : Type) where
  | byName (entries : List (String × Source))
  | inOrder (items : List Source)
  | none (found : Found)

/-- Reads a record of the given type name over the record of its defaults. -/
def Layout.read {Source Record : Type} (typeName : String)
    (fields : List (RecordField Source Record)) (defaults : Record) :
    Layout Source → Except Mismatch Record
  | .byName entries => RecordField.readEntries fields entries defaults
  | .inOrder items => do
    let record ← RecordField.readItems fields items defaults
    if fields.length < items.length then
      .error (.invalidLength items.length "fewer elements in array")
    else
      .ok record
  | .none found => .error (.invalidType found ("struct " ++ typeName))

/-- What a value gives a record. -/
def Value.layout : Value → Layout Value
  | .object entries => .byName entries
  | .array items => .inOrder items
  | value => .none value.found

/-- Reads a record of the given type name from a value. -/
def Value.readRecord {Record : Type} (typeName : String)
    (fields : List (RecordField Value Record)) (defaults : Record) (value : Value) :
    Except Mismatch Record :=
  value.layout.read typeName fields defaults

end ErrorLint
