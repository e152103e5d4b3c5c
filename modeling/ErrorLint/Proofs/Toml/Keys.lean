/-
This file reads back the keys and paths that are written. A key is bare or stands between
quotes, and nothing that can follow it could be taken for more of it. A path is read with the
blanks after it, and only if it is short enough.
-/

import ErrorLint.Proofs.Toml.Strings
import ErrorLint.Toml.Key

namespace ErrorLint.Toml

open StringStyle (dropBlanks)

variable {rest : List Char} {limit : Nat}

/-! ### Keys -/

/-- The characters that a key can begin with. -/
def startsKey (char : Char) : Bool :=
  isBareChar char || char = '"' || char = '\''

/-- What may follow a key directly. -/
def EndsKey (rest : List Char) : Prop :=
  ∀ char ∈ rest.head?, startsKey char = false

theorem endsKey_cons {char : Char} (ends : startsKey char = false) (rest : List Char) :
    EndsKey (char :: rest) := by
  rintro _ ⟨⟩
  exact ends

theorem startsKey_quote (style : StringStyle) : startsKey style.quote = true := by
  unfold StringStyle.quote
  split <;> decide

theorem startsKey_of_isBareChar {char : Char} (bare : isBareChar char = true) :
    startsKey char = true := by
  simp [startsKey, bare]

/-- A key between quotes is read back. -/
theorem readKey_write {style : StringStyle} {key : List Char} (line : style.multiline = false)
    (fits : style.Fits key) (ends : EndsKey rest) :
    readKey (style.write key ++ rest) = some (String.ofList key, rest) := by
  have follows : rest.head? ≠ some style.quote := by
    intro looks
    have := ends _ looks
    rw [startsKey_quote] at this
    cases this
  obtain ⟨inside, written, reads, -⟩ := fits.exists_inside follows
  rw [written]
  obtain ⟨escaped, _⟩ := style
  cases line
  cases escaped
  · show (StringStyle.literal.body inside).map _ = _
    rw [StringStyle.literal, reads]
    rfl
  · show (StringStyle.basic.body inside).map _ = _
    rw [StringStyle.basic, reads]
    rfl

/-- A bare key is read back. -/
theorem readKey_bare {key : List Char} (present : key ≠ []) (bare : ∀ char ∈ key, isBareChar char)
    (ends : EndsKey rest) : readKey (key ++ rest) = some (String.ofList key, rest) := by
  have stops : rest.takeWhile isBareChar = [] ∧ rest.dropWhile isBareChar = rest := by
    cases rest with
    | nil => exact ⟨rfl, rfl⟩
    | cons char rest =>
      have other : ¬isBareChar char = true := by
        intro bare
        have := ends char rfl
        rw [startsKey_of_isBareChar bare] at this
        cases this
      exact ⟨List.takeWhile_cons_of_neg other, List.dropWhile_cons_of_neg other⟩
  have taken : (key ++ rest).takeWhile isBareChar = key := by
    rw [List.takeWhile_append_of_pos bare, stops.1, List.append_nil]
  have dropped : (key ++ rest).dropWhile isBareChar = rest := by
    rw [List.dropWhile_append_of_pos bare, stops.2]
  obtain ⟨first, others, rfl⟩ := List.exists_cons_of_ne_nil present
  have firstBare := bare first List.mem_cons_self
  unfold readKey
  split
  · rename_i looks
    rw [(List.cons.inj looks).1] at firstBare
    cases firstBare
  · rename_i looks
    rw [(List.cons.inj looks).1] at firstBare
    cases firstBare
  · rw [taken, dropped]

/-- A key is written bare, or in a style on one line that fits it. -/
theorem writeKey_cases (key : List Char) :
    (writeKey key = key ∧ key ≠ [] ∧ ∀ char ∈ key, isBareChar char) ∨
    ∃ style : StringStyle, style.multiline = false ∧ style.Fits key ∧
      writeKey key = style.write key := by
  unfold writeKey
  split
  · rename_i bare
    simp only [Bool.and_eq_true, decide_eq_true_eq, List.all_eq_true] at bare
    exact .inl ⟨rfl, bare⟩
  · refine .inr ?_
    split
    · exact ⟨_, rfl, StringStyle.fits_of_escaped rfl, rfl⟩
    · split
      · rename_i plain
        simp only [Bool.and_eq_true, Bool.not_eq_true', List.contains_eq_mem,
          decide_eq_false_iff_not, List.any_eq_false, Bool.not_eq_true] at plain
        exact ⟨_, rfl, StringStyle.fits_literal plain.1
          (StringStyle.longestRun_eq_zero_iff.2 plain.2), rfl⟩
      · exact ⟨_, rfl, StringStyle.fits_of_escaped rfl, rfl⟩

/-- A key is read back, up to what follows it. -/
theorem readKey_writeKey (key : String) (ends : EndsKey rest) :
    readKey (writeKey key.toList ++ rest) = some (key, rest) := by
  have read : readKey (writeKey key.toList ++ rest) =
      some (String.ofList key.toList, rest) := by
    obtain ⟨same, present, bare⟩ | ⟨style, line, fits, same⟩ := writeKey_cases key.toList
    · rw [same, readKey_bare present bare ends]
    · rw [same, readKey_write line fits ends]
  rwa [String.ofList_toList] at read

theorem exists_writeKey_eq_cons (key : List Char) :
    ∃ first others, writeKey key = first :: others ∧ startsKey first = true := by
  obtain ⟨same, present, bare⟩ | ⟨style, line, -, same⟩ := writeKey_cases key
  · obtain ⟨first, others, rfl⟩ := List.exists_cons_of_ne_nil present
    exact ⟨first, others, same, startsKey_of_isBareChar (bare first List.mem_cons_self)⟩
  · rw [same, StringStyle.write, StringStyle.delimiter, line]
    exact ⟨_, _, rfl, startsKey_quote style⟩

/-! ### Paths -/

theorem exists_writePath_eq_cons {keys : List String} (present : keys ≠ []) :
    ∃ first others, writePath keys = first :: others ∧ startsKey first = true := by
  obtain ⟨key, keys, rfl⟩ := List.exists_cons_of_ne_nil present
  obtain ⟨first, others, written, starts⟩ := exists_writeKey_eq_cons key.toList
  cases keys with
  | nil => exact ⟨first, others, written, starts⟩
  | cons next keys =>
    rw [writePath, written]
    · exact ⟨first, _, rfl, starts⟩
    · exact nofun

theorem dropBlanks_of_startsKey {first : Char} (starts : startsKey first = true)
    (others : List Char) : dropBlanks (first :: others) = first :: others := by
  refine StringStyle.dropBlanks_of_head ⟨?_, ?_⟩ others <;>
  · rintro rfl
    cases starts

/-- No blank comes before a path. -/
theorem dropBlanks_writePath {keys : List String} (present : keys ≠ []) (rest : List Char) :
    dropBlanks (writePath keys ++ rest) = writePath keys ++ rest := by
  obtain ⟨first, others, written, starts⟩ := exists_writePath_eq_cons present
  rw [written]
  exact dropBlanks_of_startsKey starts _

theorem length_le_length_writePath (keys : List String) :
    keys.length ≤ (writePath keys).length := by
  induction keys using writePath.induct with
  | case1 => exact Nat.zero_le _
  | case2 key =>
    obtain ⟨first, others, written, -⟩ := exists_writeKey_eq_cons key.toList
    rw [writePath, written]
    simp
  | case3 key keys several inductionHypothesis =>
    rw [writePath, List.length_append]
    · simp only [List.length_cons]
      omega
    · exact several

/-- The keys of a path are read back, with the blanks on either side. -/
theorem readKeys_writePath {keys : List String} (present : keys ≠ []) {text : List Char}
    (starts : dropBlanks text = writePath keys ++ rest) (ends : EndsKey rest)
    (last : (dropBlanks rest).head? ≠ some '.') {fuel : Nat} (enough : keys.length ≤ fuel) :
    readKeys fuel text = some (keys, dropBlanks rest) := by
  induction keys using writePath.induct generalizing text fuel with
  | case1 => exact absurd rfl present
  | case2 key =>
    obtain ⟨fuel, rfl⟩ := Nat.exists_eq_add_of_le' enough
    rw [writePath] at starts
    rw [List.length_singleton, readKeys, starts, readKey_writeKey key ends]
    dsimp only [Option.bind_eq_bind, Option.bind_some]
    split
    · rename_i dotted
      rw [dotted] at last
      exact absurd rfl last
    · rfl
  | case3 key keys several inductionHypothesis =>
    obtain ⟨fuel, rfl⟩ := Nat.exists_eq_add_of_le' (Nat.le_trans (Nat.le_add_left 1 _) enough)
    have others := inductionHypothesis several (dropBlanks_writePath several rest)
      (show keys.length ≤ fuel by simpa using enough)
    rw [writePath, List.append_assoc, List.cons_append] at starts
    · rw [readKeys, starts, readKey_writeKey key (endsKey_cons rfl _)]
      simp [StringStyle.dropBlanks_of_head, others]
    · exact several

/-- A path is read back, unless it is too long. -/
theorem readPath_writePath {keys : List String} (present : keys ≠ []) {text : List Char}
    (starts : dropBlanks text = writePath keys ++ rest) (ends : EndsKey rest)
    (last : (dropBlanks rest).head? ≠ some '.') :
    readPath limit text = if keys.length < limit then some (keys, dropBlanks rest) else none := by
  have enough : keys.length ≤ text.length := calc
    keys.length ≤ (writePath keys).length := length_le_length_writePath keys
    _ ≤ (dropBlanks text).length := by
      rw [starts, List.length_append]
      exact Nat.le_add_right ..
    _ ≤ text.length := (List.dropWhile_sublist _).length_le
  rw [readPath, readKeys_writePath present starts ends last enough]
  rfl

end ErrorLint.Toml
