import QuerySets.Proofs.Definition.History
import QuerySets.Proofs.Definition.Mask

/-!
How mask types are spelled. A text is read as a type exactly if it spells this type, with blanks
around it or not: as a word, and for the two kinds with a length as a word with nothing after it,
with a numeral or with a numeral in square brackets. The form in which a type is written is one of
its spellings, so a mask that is stored is read back as it was.
-/

namespace QuerySets

/-- A mask with a length that fits in a word is read from its record, wherever this stands. -/
theorem Mask.restorable {m : Mask} (h : m.type.fits) : Definition.Restorable m := by
  refine ⟨?alone, ?inHistory⟩
  case alone => rw [m.decode_toJson, if_pos h]
  case inHistory => rw [m.decodeInside_toJson (by decide), if_pos h]

namespace MaskType

open Text (Padded Bare)
open Text.Numeral (Counts)

variable {cs : List Char} {n : Nat} {m : MaskType}

/-- What can stand for a length after a word. -/
inductive SpelledLength : List Char → Nat → Prop
  | omitted : SpelledLength [] 4
  | plain {cs : List Char} {n : Nat} (h : Counts cs n) (hn : n < UInt64.size) : SpelledLength cs n
  | bracketed {cs : List Char} {n : Nat} (h : Counts cs n) (hn : n < UInt64.size) :
    SpelledLength ('[' :: (cs ++ [']'])) n

/-- What can stand for a type. -/
inductive Spelled : List Char → MaskType → Prop
  | all : Spelled "all".toList all
  | email : Spelled "email".toList email
  | remove : Spelled "remove".toList remove
  | left {cs : List Char} {n : Nat} (h : SpelledLength cs n) :
      Spelled ("left".toList ++ cs) (left n)
  | right {cs : List Char} {n : Nat} (h : SpelledLength cs n) :
    Spelled ("right".toList ++ cs) (right n)

theorem unbracket_of_counts (h : Counts cs n) : unbracket cs = cs := by
  unfold unbracket
  split
  next =>
    rcases h.cases_mem List.mem_cons_self with hsign | hdigit
    · exact absurd hsign (by decide)
    · exact absurd hdigit (by decide)
  next => rfl

theorem unbracket_bracketed (cs : List Char) : unbracket ('[' :: (cs ++ [']'])) = cs := by
  simp [unbracket]

/-- Brackets are taken off in pairs. -/
theorem unbracket_cases (cs : List Char) :
    unbracket cs = cs ∨ cs = '[' :: (unbracket cs ++ [']']) := by
  unfold unbracket
  split
  next rest =>
    split
    next hlast => exact Or.inr (congrArg ('[' :: ·) (List.dropLast_append_getLast? _ hlast).symm)
    next => exact Or.inl rfl
  next => exact Or.inl rfl

theorem length?_eq_some_iff : length? cs = some n ↔ SpelledLength cs n := by
  constructor
  · intro h
    unfold length? at h
    split at h
    next hempty =>
      cases h
      rw [List.isEmpty_iff.mp hempty]
      exact .omitted
    next =>
      obtain ⟨hcounts, hn⟩ := Text.Numeral.word?_eq_some_iff.mp h
      rcases unbracket_cases cs with hsame | hbrackets
      · exact .plain (hsame ▸ hcounts) hn
      · rw [hbrackets]
        exact .bracketed hcounts hn
  · intro h
    cases h with
    | omitted => rfl
    | plain h hn =>
      have hempty : ¬ cs.isEmpty = true := fun hempty => h.ne_nil (List.isEmpty_iff.mp hempty)
      rw [length?, if_neg hempty, unbracket_of_counts h]
      exact Text.Numeral.word?_eq_some_iff.mpr ⟨h, hn⟩
    | bracketed h hn =>
      rw [length?, unbracket_bracketed]
      exact Text.Numeral.word?_eq_some_iff.mpr ⟨h, hn⟩

theorem ofChars?_eq_some_iff : ofChars? cs = some m ↔ Spelled cs m := by
  constructor
  · intro h
    unfold ofChars? at h
    split at h
    next hall => cases h; exact hall ▸ .all
    split at h
    next hemail => cases h; exact hemail ▸ .email
    split at h
    next hremove => cases h; exact hremove ▸ .remove
    split at h
    next rest hleft =>
      obtain ⟨n, hn, rfl⟩ := Option.map_eq_some_iff.mp h
      rw [Text.eq_append_of_dropStart? hleft]
      exact .left (length?_eq_some_iff.mp hn)
    next =>
      split at h
      next rest hright =>
        obtain ⟨n, hn, rfl⟩ := Option.map_eq_some_iff.mp h
        rw [Text.eq_append_of_dropStart? hright]
        exact .right (length?_eq_some_iff.mp hn)
      next => cases h
  · intro h
    cases h with
    | all | email | remove => rfl
    | left h => rw [ofChars?_left, length?_eq_some_iff.mpr h, Option.map_some]
    | right h => rw [ofChars?_right, length?_eq_some_iff.mpr h, Option.map_some]

theorem not_blank_of_counts (h : Counts cs n) {c : Char} (hc : c ∈ cs) :
    Text.isBlank c = false := by
  rcases h.cases_mem hc with rfl | hdigit
  · rfl
  · exact Text.not_blank_of_isDigit hdigit

theorem SpelledLength.not_blank (h : SpelledLength cs n) {c : Char} (hc : c ∈ cs) :
    Text.isBlank c = false := by
  cases h with
  | omitted => cases hc
  | plain h _ => exact not_blank_of_counts h hc
  | bracketed h _ =>
    rcases List.mem_cons.mp hc with rfl | hc
    · rfl
    rcases List.mem_append.mp hc with hc | hc
    · exact not_blank_of_counts h hc
    · rw [List.mem_singleton.mp hc]
      rfl

theorem SpelledLength.bare_append (h : SpelledLength cs n) {word : List Char}
    (hword : word.any Text.isBlank = false) : Bare (word ++ cs) := by
  refine Text.bare_of_forall fun c hc => ?_
  rcases List.mem_append.mp hc with hc | hc
  · exact Bool.eq_false_iff.mpr (List.any_eq_false.mp hword c hc)
  · exact h.not_blank hc

/-- There is no blank in a spelling, so none of it is lost where a text is trimmed. -/
theorem Spelled.bare (h : Spelled cs m) : Bare cs := by
  cases h with
  | all | email | remove => exact Text.bare_of_ends rfl rfl rfl rfl
  | left h | right h => exact h.bare_append rfl

theorem ofString?_eq_some_iff {text : String} :
    ofString? text = some m ↔ ∃ word, Padded word text.toList ∧ Spelled word m := by
  rw [ofString?, ofChars?_eq_some_iff]
  constructor
  · intro h
    exact ⟨_, (Text.trimChars_eq_iff.mp rfl).1, h⟩
  · rintro ⟨word, hpadded, hspelled⟩
    rwa [Text.trimChars_eq_iff.mpr ⟨hpadded, hspelled.bare⟩]

/-- A type whose length fits in a word is read from its written form, and so is a mask of such a
type from the record that a store keeps of it. Any text is read as a type exactly if it is one of
the spellings of this type with blanks around it, or with none. -/
theorem spellings_read :
    (∀ m : MaskType, m.fits → ofString? m.toString = some m) ∧
      (∀ m : Mask, m.type.fits → Definition.Restorable m ∧
        (Definition.validate m = .ok () → ∀ s : DefinitionStore Mask,
          ∃ s', s.upsert m = .ok s' ∧ s'.get m.key = .ok m)) ∧
      ∀ (text : String) (m : MaskType), ofString? text = some m ↔
        ∃ word, Padded word text.toList ∧ Spelled word m := by
  refine ⟨?written, ?stored, ?spelled⟩
  case written =>
    intro m hm
    rw [ofString?_toString, if_pos hm]
  case stored =>
    intro m hm
    have hrestorable := Mask.restorable hm
    exact ⟨hrestorable, fun hvalid s => s.get_upsert_of_valid hvalid hrestorable.alone⟩
  case spelled => exact fun text m => ofString?_eq_some_iff

/-- A mask with the greatest length that there is, stored and read back, and a numeral with a
sign, a zero and brackets, read with blanks around it. -/
theorem spellings_read_sample :
    let m : Mask := ⟨"*", "phone", .right 18446744073709551615⟩
    m.type.fits ∧ ofString? m.type.toString = some m.type ∧ Definition.validate m = .ok () ∧
      (∃ s', (DefinitionStore.persistent .empty).upsert m = .ok s' ∧ s'.get m.key = .ok m) ∧
      ofString? "\t left[+08]\n" = some (.left 8) ∧
      ofString? "left[18446744073709551616]" = none := by
  intro m
  have hfits : m.type.fits := by decide
  have hvalid : Definition.validate m = .ok () := by
    simp [m, Definition.validate, Mask.validate, Text.isBlankText, Text.isBlank]
  have hword : Padded "left[+08]".toList "\t left[+08]\n".toList :=
    ⟨['\t', ' '], ['\n'], rfl, List.all_eq_true.mp rfl, List.all_eq_true.mp rfl⟩
  have hcounts : Counts "+08".toList 8 := .signed (by decide) (List.all_eq_true.mp rfl)
  obtain ⟨hwritten, hstored, hspelled⟩ := spellings_read
  refine ⟨hfits, hwritten _ hfits, hvalid, (hstored m hfits).2 hvalid _, ?_, by decide⟩
  exact (hspelled _ _).mpr ⟨_, hword, .left (.bracketed hcounts (by decide))⟩

end MaskType

end QuerySets
