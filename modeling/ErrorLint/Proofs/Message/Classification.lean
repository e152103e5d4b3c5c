/-
This file ranks the categories in the order in which they are asked, and says how the category
of a message moves on this scale. More text can only add keywords, so it can only bring the
category forward; a respelling in other cases of ASCII letters adds none and takes none away.
A keyword that is seen in the message bounds its category, and only a keyword of an earlier
category can bring it further forward.

Keywords are looked for in the lower-case form, and the form of a part of a message is not
always part of the form of the whole: what a capital sigma becomes depends on its neighbours.
No keyword has a sigma, so the category is the same for every lower-case form.
-/

import ErrorLint.Message.Category
import ErrorLint.Proofs.Text.LowerCasing
import ErrorLint.Proofs.Text.Search

namespace ErrorLint.Category

/-- The rank of a category. A message without a keyword ranks last. -/
def rank : Category → Nat
  | .validation => 0
  | .notFound => 1
  | .unauthorized => 2
  | .timeout => 3
  | .network => 4
  | .generic => 5

theorem rank_le_generic (category : Category) : category.rank ≤ generic.rank := by
  cases category <;> decide

/-- The category of a message with the given lower-case form. -/
def ofLowered (lowered : List Char) : Category :=
  (ranked.find? (·.occursIn lowered)).getD .generic

/-- A category is spelled in a text if one of its keywords stands there, in whatever case. -/
def IsSpelledIn (category : Category) (text : List Char) : Prop :=
  ∃ keyword ∈ category.keywords, ∃ part, part <:+: text ∧ Text.AlikeInCase part keyword.toList

/-! ### The first category that occurs -/

theorem occursIn_iff {category : Category} {text : List Char} :
    category.occursIn text = true ↔ ∃ keyword ∈ category.keywords, keyword.toList <:+: text := by
  rw [occursIn, List.any_eq_true]
  exact exists_congr fun keyword => and_congr_right fun _ => Text.contains_iff_infix

theorem occursIn_eq_false_iff {category : Category} {text : List Char} :
    category.occursIn text = false ↔ ∀ keyword ∈ category.keywords, ¬keyword.toList <:+: text := by
  rw [← Bool.not_eq_true, occursIn_iff]
  push Not
  rfl

/-- Every category with a keyword is asked. -/
theorem mem_ranked_of_occursIn {category : Category} {text : List Char}
    (occurs : category.occursIn text = true) : category ∈ ranked := by
  cases category with
  | generic => cases occurs
  | _ => decide

/-- The category of a message occurs in it, unless it is the generic one. -/
theorem occursIn_ofLowered {lowered : List Char} (special : ofLowered lowered ≠ .generic) :
    (ofLowered lowered).occursIn lowered = true := by
  unfold ofLowered at special ⊢
  cases found : ranked.find? (·.occursIn lowered) with
  | none =>
    rw [found] at special
    exact absurd rfl special
  | some category =>
    have holds := List.find?_some found
    exact holds

/-- No category that occurs ranks before that of the message. -/
theorem rank_ofLowered_le {category : Category} {lowered : List Char}
    (occurs : category.occursIn lowered = true) : (ofLowered lowered).rank ≤ category.rank := by
  have asked := mem_ranked_of_occursIn occurs
  unfold ofLowered
  cases found : ranked.find? (·.occursIn lowered) with
  | none => exact absurd occurs (List.find?_eq_none.mp found category asked)
  | some first =>
    obtain ⟨-, before, after, split, passed⟩ := List.find?_eq_some_iff_append.mp found
    have ascending : ranked.Pairwise fun left right => left.rank ≤ right.rank := by decide
    rw [split] at asked ascending
    rcases List.mem_append.mp asked with early | late
    · have absent := passed category early
      rw [occurs] at absent
      cases absent
    · rcases List.mem_cons.mp late with rfl | later
      · exact Nat.le_refl _
      · exact List.rel_of_pairwise_cons (List.pairwise_append.mp ascending).2.1 later

/-- A text in which all occurs that occurs in another one ranks no later. -/
theorem rank_ofLowered_antitone {part whole : List Char}
    (kept : ∀ category : Category, category.occursIn part = true → category.occursIn whole = true) :
    (ofLowered whole).rank ≤ (ofLowered part).rank := by
  by_cases special : ofLowered part = .generic
  · rw [special]
    exact rank_le_generic _
  · exact rank_ofLowered_le (kept _ (occursIn_ofLowered special))

/-- A category that occurs is that of the message if and only if none does that ranks before. -/
theorem rank_ofLowered_eq_iff {category : Category} {lowered : List Char}
    (occurs : category.occursIn lowered = true) :
    (ofLowered lowered).rank = category.rank ↔
      ∀ earlier : Category, earlier.rank < category.rank → earlier.occursIn lowered = false := by
  have bound := rank_ofLowered_le occurs
  constructor
  · intro same earlier before
    by_contra occursEarlier
    rw [Bool.not_eq_false] at occursEarlier
    have first := rank_ofLowered_le occursEarlier
    omega
  · intro none
    by_contra different
    have before : (ofLowered lowered).rank < category.rank := Nat.lt_of_le_of_ne bound different
    have special : ofLowered lowered ≠ .generic := by
      intro isGeneric
      rw [isGeneric] at before
      exact absurd (rank_le_generic category) (Nat.not_le_of_lt before)
    have absent := none _ before
    rw [occursIn_ofLowered special] at absent
    cases absent

/-! ### Keywords in lower-case forms -/

/-- Keywords are spelled in small letters, and no sigma is among them. -/
theorem keyword_plain {category : Category} {keyword : String}
    (isKeyword : keyword ∈ category.keywords) :
    Text.lower keyword.toList = keyword.toList ∧ 'σ' ∉ keyword.toList ∧ 'ς' ∉ keyword.toList := by
  have plain : ∀ category ∈ all, ∀ keyword ∈ category.keywords,
      Text.lower keyword.toList = keyword.toList ∧ 'σ' ∉ keyword.toList ∧ 'ς' ∉ keyword.toList := by
    decide +kernel
  exact plain category (by cases category <;> decide) keyword isKeyword

/-- A category occurs in all lower-case forms of a text or in none. -/
theorem occursIn_congr {text lowered : List Char} (form : Text.IsLowerForm text lowered)
    (category : Category) : category.occursIn lowered = category.occursIn (Text.lower text) := by
  rw [Bool.eq_iff_iff, occursIn_iff, occursIn_iff]
  refine exists_congr fun keyword => and_congr_right fun isKeyword => ?_
  obtain ⟨-, noMiddle, noFinal⟩ := keyword_plain isKeyword
  exact form.infix_iff noMiddle noFinal

theorem ofLowered_congr {text lowered : List Char} (form : Text.IsLowerForm text lowered) :
    ofLowered lowered = ofLowered (Text.lower text) := by
  unfold ofLowered
  simp only [occursIn_congr form]

/-- What occurs in a part of a text occurs in the text. -/
theorem occursIn_of_infix {category : Category} {part text : List Char} (inside : part <:+: text)
    (occurs : category.occursIn part = true) : category.occursIn text = true := by
  obtain ⟨keyword, isKeyword, found⟩ := occursIn_iff.mp occurs
  exact occursIn_iff.mpr ⟨keyword, isKeyword, found.trans inside⟩

/-- A category that is spelled in a text occurs in its form. -/
theorem IsSpelledIn.occursIn_lower {category : Category} {text : List Char}
    (spelled : category.IsSpelledIn text) : category.occursIn (Text.lower text) = true := by
  obtain ⟨keyword, isKeyword, part, inside, alike⟩ := spelled
  have found := Text.lower_infix inside
  rw [alike.lower_eq, (keyword_plain isKeyword).1] at found
  exact occursIn_iff.mpr ⟨keyword, isKeyword, found⟩

/-! ### Messages -/

/-- However capital sigmas are lowered, the category of a message is the first one with a keyword
in its lower-case form. It comes no later if text is added before and after the message, it does
not change with the case of ASCII letters, and it comes no later than any category that is
spelled in the message; it has the rank of such a category if and only if no keyword of an earlier
one occurs in the lower-case form. -/
theorem ofMessage_ranked (lower : List Char → List Char)
    (lowers : ∀ text, Text.IsLowerForm text (lower text)) :
    (∀ message : String, ofMessage message = ofLowered (lower message.toList)) ∧
      (∀ front message back : String,
        (ofMessage (front ++ message ++ back)).rank ≤ (ofMessage message).rank) ∧
      (∀ message respelled : String, Text.AlikeInCase message.toList respelled.toList →
        ofMessage respelled = ofMessage message) ∧
      ∀ (message : String) (category : Category), category.IsSpelledIn message.toList →
        (ofMessage message).rank ≤ category.rank ∧
          ((ofMessage message).rank = category.rank ↔
            ∀ earlier : Category, earlier.rank < category.rank →
              ∀ keyword ∈ earlier.keywords, ¬keyword.toList <:+: lower message.toList) := by
  refine ⟨?_, ?_, ?_, ?_⟩
  · intro message
    exact (ofLowered_congr (lowers message.toList)).symm
  · intro front message back
    have inside : message.toList <:+: (front ++ message ++ back).toList :=
      ⟨front.toList, back.toList, by rw [String.toList_append, String.toList_append]⟩
    exact rank_ofLowered_antitone fun category =>
      occursIn_of_infix (Text.lower_infix inside)
  · intro message respelled alike
    exact congrArg ofLowered alike.lower_eq.symm
  · intro message category spelled
    have occurs := spelled.occursIn_lower
    refine ⟨rank_ofLowered_le occurs, ?_⟩
    refine (rank_ofLowered_eq_iff occurs).trans (forall₂_congr fun earlier _ => ?_)
    rw [← occursIn_congr (lowers message.toList), occursIn_eq_false_iff]

/-- The message ends in a final sigma. With a letter behind it the sigma is no longer final, and
the form of the message is not part of the form of the longer one. The message spells a network
error, and a timeout ranks before that. -/
theorem ofMessage_ranked_of_sigma :
    let lower := Text.lowerFinal false
    let message := "TIME OUT, Lost Connection ΛΟΓΟΣ"
    (∀ text, Text.IsLowerForm text (lower text)) ∧
      lower message.toList = "time out, lost connection λογος".toList ∧
      ¬lower message.toList <:+: lower ("Invalid " ++ message ++ "Α").toList ∧
      IsSpelledIn .network message.toList ∧
      Text.AlikeInCase message.toList "time out, lost connection ΛΟΓΟΣ".toList ∧
      ofMessage message = ofLowered (lower message.toList) ∧
      (ofMessage ("Invalid " ++ message ++ "Α")).rank ≤ (ofMessage message).rank ∧
      ofMessage "time out, lost connection ΛΟΓΟΣ" = ofMessage message ∧
      (ofMessage message).rank < rank .network := by
  intro lower message
  have lowers : ∀ text, Text.IsLowerForm text (lower text) := Text.isLowerForm_lowerFinal false
  have form : lower message.toList = "time out, lost connection λογος".toList := by
    decide +kernel
  have spelled : IsSpelledIn .network message.toList := by
    refine ⟨"connection", by decide, "Connection".toList, ?_, by decide⟩
    exact Text.contains_iff_infix.mp (by decide +kernel)
  have alike : Text.AlikeInCase message.toList "time out, lost connection ΛΟΓΟΣ".toList := by
    decide +kernel
  have apart : ¬lower message.toList <:+: lower ("Invalid " ++ message ++ "Α").toList :=
    mt Text.contains_iff_infix.mpr (by decide +kernel)
  obtain ⟨first, embedded, blind, bounded⟩ := ofMessage_ranked lower lowers
  obtain ⟨bound, attained⟩ := bounded message .network spelled
  refine ⟨lowers, form, apart, spelled, alike, first message, embedded "Invalid " message "Α",
    blind message _ alike, Nat.lt_of_le_of_ne bound fun same => ?_⟩
  have absent := attained.mp same .timeout (by decide) "time out" (by decide)
  rw [form] at absent
  exact absent (Text.contains_iff_infix.mp (by decide +kernel))

end ErrorLint.Category
