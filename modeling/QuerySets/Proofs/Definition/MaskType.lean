import QuerySets.Definition.MaskType
import QuerySets.Proofs.Text.Blank
import QuerySets.Proofs.Text.Numeral
import QuerySets.Proofs.Text.Split

/-!
Mask types read back. The written form of a type is read as that type, unless its
length does not fit in a word, and then it is not read at all.
-/

namespace QuerySets.MaskType

/-- Whether the length of a type, if it has one, fits in a word. -/
def fits : MaskType → Bool
  | left n | right n => n < UInt64.size
  | _ => true

theorem length?_bracketed (n : Nat) :
    length? ('[' :: (Text.Numeral.ofNat n ++ [']'])) =
      if n < UInt64.size then some n else none := by
  simp [length?, unbracket, Text.Numeral.word?_ofNat]

theorem toChars_left (n : Nat) :
    toChars (left n) = "left".toList ++ '[' :: (Text.Numeral.ofNat n ++ [']']) := rfl

theorem toChars_right (n : Nat) :
    toChars (right n) = "right".toList ++ '[' :: (Text.Numeral.ofNat n ++ [']']) := rfl

theorem ofChars?_left (rest : List Char) :
    ofChars? ("left".toList ++ rest) = (length? rest).map left := by
  have hdrop := Text.dropStart?_append "left".toList rest
  have hall : "left".toList ++ rest ≠ "all".toList := by simp
  have hemail : "left".toList ++ rest ≠ "email".toList := by simp
  have hremove : "left".toList ++ rest ≠ "remove".toList := by simp
  rw [ofChars?, if_neg hall, if_neg hemail, if_neg hremove]
  simp only [hdrop]

theorem ofChars?_right (rest : List Char) :
    ofChars? ("right".toList ++ rest) = (length? rest).map right := by
  have hleft : Text.dropStart? "left".toList ("right".toList ++ rest) = none := rfl
  have hdrop := Text.dropStart?_append "right".toList rest
  have hall : "right".toList ++ rest ≠ "all".toList := by simp
  have hemail : "right".toList ++ rest ≠ "email".toList := by simp
  have hremove : "right".toList ++ rest ≠ "remove".toList := by simp
  rw [ofChars?, if_neg hall, if_neg hemail, if_neg hremove]
  simp only [hleft, hdrop]

theorem bare_toChars (m : MaskType) : Text.Bare m.toChars := by
  cases m with
  | all | email | remove => exact Text.bare_of_ends rfl rfl rfl rfl
  | left n | right n => exact Text.bare_of_ends rfl List.getLast?_concat rfl rfl

theorem ofString?_toString (m : MaskType) :
    ofString? m.toString = if m.fits then some m else none := by
  rw [ofString?, MaskType.toString, String.toList_ofList,
    Text.trimChars_eq_iff.mpr ⟨Text.padded_self m.toChars, m.bare_toChars⟩]
  cases m with
  | all | email | remove => rfl
  | left n =>
    rw [toChars_left, ofChars?_left, length?_bracketed]
    by_cases hn : n < UInt64.size <;> simp [fits, hn]
  | right n =>
    rw [toChars_right, ofChars?_right, length?_bracketed]
    by_cases hn : n < UInt64.size <;> simp [fits, hn]

end QuerySets.MaskType
