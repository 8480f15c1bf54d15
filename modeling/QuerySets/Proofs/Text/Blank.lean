import Mathlib.Data.List.DropRight
import QuerySets.Text.Blank

/-!
Blanks at the ends of a text. Trimming takes off blanks and nothing else, and leaves none at
either end, which says what is left of any text.
-/

namespace QuerySets.Text

/-- One text with blanks before and after it, or on one side, or on none, is the other. -/
def Padded (core cs : List Char) : Prop :=
  ∃ before after, cs = before ++ core ++ after ∧ (∀ c ∈ before, isBlank c = true) ∧
    ∀ c ∈ after, isBlank c = true

/-- There is no blank at either end. -/
structure Bare (cs : List Char) : Prop where
  first : ∀ c ∈ cs.head?, isBlank c = false
  last : ∀ c ∈ cs.getLast?, isBlank c = false

variable {cs core : List Char}

theorem padded_self (cs : List Char) : Padded cs cs := ⟨[], [], by simp, by simp, by simp⟩

theorem bare_of_forall (h : ∀ c ∈ cs, isBlank c = false) : Bare cs :=
  ⟨fun c hc => h c (List.mem_of_mem_head? hc), fun c hc => h c (List.mem_of_mem_getLast? hc)⟩

theorem bare_of_ends {first last : Char} (hfirst : cs.head? = some first)
    (hlast : cs.getLast? = some last) (h : isBlank first = false) (h' : isBlank last = false) :
    Bare cs := by
  refine ⟨?_, ?_⟩
  · intro c hc
    rw [hfirst] at hc
    cases hc
    exact h
  · intro c hc
    rw [hlast] at hc
    cases hc
    exact h'

theorem trimChars_eq_rdropWhile (cs : List Char) :
    trimChars cs = (dropBlanks cs).rdropWhile isBlank := rfl

theorem padded_trimChars (cs : List Char) : Padded (trimChars cs) cs := by
  refine ⟨cs.takeWhile isBlank, (dropBlanks cs).rtakeWhile isBlank, ?_, ?_, ?_⟩
  · rw [trimChars_eq_rdropWhile, List.append_assoc, List.rdropWhile_append_rtakeWhile, dropBlanks,
      List.takeWhile_append_dropWhile]
  · intro c hc
    exact List.mem_takeWhile_imp hc
  · intro c hc
    exact List.mem_rtakeWhile_imp hc

theorem bare_trimChars (cs : List Char) : Bare (trimChars cs) := by
  refine ⟨?first, ?last⟩
  case first =>
    intro c hc
    obtain ⟨rest, hrest⟩ := List.rdropWhile_prefix isBlank (dropBlanks cs)
    have hhead : (cs.dropWhile isBlank).head? = some c := by
      rw [← dropBlanks, ← hrest, List.head?_append, ← trimChars_eq_rdropWhile, hc, Option.some_or]
    have hnot := List.head?_dropWhile_not isBlank cs
    rwa [hhead] at hnot
  case last =>
    intro c hc
    obtain ⟨hne, rfl⟩ := List.mem_getLast?_eq_getLast hc
    exact Bool.eq_false_iff.mpr (List.rdropWhile_last_not isBlank (dropBlanks cs) hne)

theorem dropBlanks_append {before : List Char} (hbefore : ∀ c ∈ before, isBlank c = true)
    (h : ∀ c ∈ cs.head?, isBlank c = false) : dropBlanks (before ++ cs) = cs := by
  rw [dropBlanks, List.dropWhile_append_of_pos hbefore]
  cases cs with
  | nil => rfl
  | cons c rest => exact List.dropWhile_cons_of_neg (by simp [h c rfl])

theorem Padded.trimChars_eq (h : Padded core cs) (hcore : Bare core) : trimChars cs = core := by
  obtain ⟨before, after, rfl, hbefore, hafter⟩ := h
  by_cases hnil : core = []
  · subst hnil
    have hall : ∀ c ∈ before ++ [] ++ after, isBlank c = true := by
      intro c hc
      rw [List.append_nil] at hc
      exact (List.mem_append.mp hc).elim (hbefore c) (hafter c)
    have hnone : dropBlanks (before ++ [] ++ after) = [] := List.dropWhile_eq_nil_iff.mpr hall
    rw [trimChars, hnone]
    rfl
  · have hfront : dropBlanks (before ++ (core ++ after)) = core ++ after := by
      refine dropBlanks_append hbefore ?_
      rw [List.head?_append_of_ne_nil core hnil]
      exact hcore.first
    have hback : dropBlanks (after.reverse ++ core.reverse) = core.reverse := by
      refine dropBlanks_append (fun c hc => hafter c (List.mem_reverse.mp hc)) ?_
      rw [List.head?_reverse]
      exact hcore.last
    rw [trimChars, List.append_assoc, hfront, List.reverse_append, hback, List.reverse_reverse]

/-- What is left of a text has no blanks at its ends, and the text is this with blanks. -/
theorem trimChars_eq_iff : trimChars cs = core ↔ Padded core cs ∧ Bare core := by
  constructor
  · rintro rfl
    exact ⟨padded_trimChars cs, bare_trimChars cs⟩
  · rintro ⟨hpadded, hbare⟩
    exact hpadded.trimChars_eq hbare

theorem not_blank_of_isDigit {c : Char} (h : c.isDigit = true) : isBlank c = false := by
  simp only [Char.isDigit, Bool.and_eq_true, decide_eq_true_eq, ge_iff_le] at h
  have hlow : 48 ≤ c.toNat := h.1
  have hhigh : c.toNat ≤ 57 := h.2
  simp only [isBlank, Bool.or_eq_false_iff, Bool.and_eq_false_iff, decide_eq_false_iff_not]
  omega

end QuerySets.Text
