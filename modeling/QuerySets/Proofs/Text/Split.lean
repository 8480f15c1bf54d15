import QuerySets.Text.Split

/-!
Texts cut where they were joined. The first separator is the one that was put in, if
there is none before it, the last one if there is none after it, and the start that was
put before a text is taken off again.
-/

namespace QuerySets.Text

theorem cutFirst?_append {separator : Char} {before : List Char} (h : separator ∉ before)
    (after : List Char) :
    cutFirst? separator (before ++ separator :: after) = some (before, after) := by
  induction before with
  | nil => simp [cutFirst?]
  | cons c rest ih =>
    obtain ⟨hc, hrest⟩ := not_or.mp (mt List.mem_cons.mpr h)
    rw [List.cons_append, cutFirst?, if_neg (Ne.symm hc), ih hrest]
    rfl

theorem cutFirst?_of_not_mem {separator : Char} {cs : List Char} (h : separator ∉ cs) :
    cutFirst? separator cs = none := by
  induction cs with
  | nil => rfl
  | cons c rest ih =>
    obtain ⟨hc, hrest⟩ := not_or.mp (mt List.mem_cons.mpr h)
    rw [cutFirst?, if_neg (Ne.symm hc), ih hrest]
    rfl

theorem cutLast?_of_not_mem {separator : Char} {cs : List Char} (h : separator ∉ cs) :
    cutLast? separator cs = none := by
  induction cs with
  | nil => rfl
  | cons c rest ih =>
    obtain ⟨hc, hrest⟩ := not_or.mp (mt List.mem_cons.mpr h)
    rw [cutLast?, ih hrest]
    exact if_neg (Ne.symm hc)

theorem cutLast?_append {separator : Char} {after : List Char} (h : separator ∉ after)
    (before : List Char) :
    cutLast? separator (before ++ separator :: after) = some (before, after) := by
  induction before with
  | nil =>
    rw [List.nil_append, cutLast?, cutLast?_of_not_mem h]
    exact if_pos rfl
  | cons c rest ih => rw [List.cons_append, cutLast?, ih]

theorem eq_append_of_cutLast? {separator : Char} {cs before after : List Char}
    (h : cutLast? separator cs = some (before, after)) : cs = before ++ separator :: after := by
  induction cs generalizing before with
  | nil => simp [cutLast?] at h
  | cons c rest ih =>
    rw [cutLast?] at h
    split at h
    next cut hcut =>
      cases h
      exact congrArg (c :: ·) (ih hcut)
    next =>
      split at h
      next hc =>
        cases h
        rw [hc, List.nil_append]
      next => cases h

theorem splitChars_of_not_mem {separator : Char} {cs : List Char} (h : separator ∉ cs) :
    splitChars separator cs = [cs] := by
  induction cs with
  | nil => rfl
  | cons c rest ih =>
    obtain ⟨hc, hrest⟩ := not_or.mp (mt List.mem_cons.mpr h)
    rw [splitChars, if_neg (Ne.symm hc), ih hrest]

/-- Without a separator a text is one piece. -/
theorem split_of_not_mem {separator : Char} {text : String} (h : separator ∉ text.toList) :
    split separator text = [text] := by
  rw [split, splitChars_of_not_mem h, List.map_singleton, String.ofList_toList]

theorem dropStart?_append (start rest : List Char) :
    dropStart? start (start ++ rest) = some rest := by
  induction start with
  | nil => cases rest <;> rfl
  | cons s start ih => simp [dropStart?, ih]

theorem eq_append_of_dropStart? {start cs rest : List Char} (h : dropStart? start cs = some rest) :
    cs = start ++ rest := by
  induction start generalizing cs with
  | nil => cases cs <;> cases h <;> rfl
  | cons s start ih =>
    cases cs with
    | nil => cases h
    | cons c cs =>
      rw [dropStart?] at h
      split at h
      next hc => exact hc ▸ congrArg (s :: ·) (ih h)
      next => cases h

end QuerySets.Text
