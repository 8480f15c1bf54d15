import QuerySets.Json.Draft
import QuerySets.Json.Printer

/-!
Strings of JSON texts read back. Each written character is read as itself, so the
closing quote is the first one that no escape has hidden, and a text that starts with
a written string determines both the string and what follows it. No control character
is left in it.
-/

namespace QuerySets.Json

open Draft

theorem Hex.value?_digit : ∀ d, d < 16 → Text.Hex.value? (Text.Hex.digit d) = some d := by
  decide

theorem hexUnit?_digits {n : Nat} (h : n < 256) :
    hexUnit? '0' '0' (Text.Hex.digit (n / 16)) (Text.Hex.digit (n % 16)) = some n := by
  have hzero : Text.Hex.value? '0' = some 0 := by decide
  have hhigh := Hex.value?_digit (n / 16) (by omega)
  have hlow := Hex.value?_digit (n % 16) (by omega)
  simp only [hexUnit?, hzero, hhigh, hlow]
  change some (((0 * 16 + 0) * 16 + n / 16) * 16 + n % 16) = some n
  congr 1
  omega

theorem textUnit_control {c : Char} (h : c.toNat < 0x20) :
    TextUnit.ofNat c.toNat = .char c := by
  simp only [TextUnit.ofNat, Char.ofNat_toNat]
  rw [if_neg (by omega), if_neg (by omega)]

/-- The units of a string after its first character. -/
private def after (c : Char) (read : Option (List TextUnit × List Char)) :
    Option (List TextUnit × List Char) :=
  read.map fun (units, rest) => (.char c :: units, rest)

/-- A plain character is none of those that start an escape or end the string. -/
theorem stringUnits?_plain {c : Char} (rest : List Char) (hquote : c ≠ '"') (hslash : c ≠ '\\')
    (hcontrol : ¬ c.toNat < 0x20) :
    stringUnits? (c :: rest) = after c (stringUnits? rest) := by
  rw [stringUnits?.eq_5 _ _ hquote (fun _ _ _ _ _ h _ => hslash h) (fun _ _ h _ => hslash h),
    if_neg hcontrol]
  rfl

theorem stringUnits?_simple {e c : Char} (rest : List Char) (hunicode : e ≠ 'u')
    (h : simpleEscape? e = some c) :
    stringUnits? ('\\' :: e :: rest) = after c (stringUnits? rest) := by
  rw [stringUnits?.eq_4 _ _ (fun _ _ _ _ _ h _ => hunicode h), h]
  cases stringUnits? rest <;> rfl

theorem stringUnits?_control {c : Char} (rest : List Char) (h : c.toNat < 0x20) :
    stringUnits? ('\\' :: 'u' :: '0' :: '0' :: Text.Hex.digit (c.toNat / 16) ::
      Text.Hex.digit (c.toNat % 16) :: rest) = after c (stringUnits? rest) := by
  rw [stringUnits?, hexUnit?_digits (by omega)]
  cases hrest : stringUnits? rest with
  | none => rfl
  | some read => simp [after, textUnit_control h]

theorem stringUnits?_escape (c : Char) (rest : List Char) :
    stringUnits? (escape c ++ rest) = after c (stringUnits? rest) := by
  unfold escape
  -- Seven characters have escapes of their own, each of one letter.
  iterate 7
    split
    next h =>
      subst h
      exact stringUnits?_simple rest (by decide) (by decide)
  split
  next h => exact stringUnits?_control rest h
  next hquote hslash _ _ _ _ _ hcontrol =>
    exact stringUnits?_plain rest hquote hslash hcontrol

theorem stringUnits?_escaped (cs rest : List Char) :
    stringUnits? (cs.flatMap escape ++ '"' :: rest) = some (cs.map .char, rest) := by
  induction cs with
  | nil => rfl
  | cons c cs ih =>
    rw [List.flatMap_cons, List.append_assoc, stringUnits?_escape, ih]
    rfl

theorem joinUnits?_chars (cs : List Char) : joinUnits? (cs.map .char) = some cs := by
  induction cs with
  | nil => rfl
  | cons c cs ih => simp [joinUnits?, ih]

/-- A string is read back up to its own closing quote. -/
theorem stringBody?_escaped (cs rest : List Char) :
    stringBody? (cs.flatMap escape ++ '"' :: rest) = some (some (String.ofList cs), rest) := by
  simp [stringBody?, stringUnits?_escaped, joinUnits?_chars]

theorem not_control_digit : ∀ d, d < 16 → ¬ (Text.Hex.digit d).toNat < 0x20 := by
  decide

theorem not_control_of_mem_escape {c d : Char} (h : d ∈ escape c) : ¬ d.toNat < 0x20 := by
  have hletter : ∀ letter, d ∈ ['\\', letter] → ¬ letter.toNat < 0x20 → ¬ d.toNat < 0x20 := by
    intro letter hd hplain
    simp only [List.mem_cons, List.not_mem_nil, or_false] at hd
    rcases hd with rfl | rfl
    · decide
    · exact hplain
  unfold escape at h
  -- The seven escapes of one letter each.
  iterate 7
    split at h
    next => exact hletter _ h (by decide)
  split at h
  next hcontrol =>
    simp only [List.mem_cons, List.not_mem_nil, or_false] at h
    rcases h with rfl | rfl | rfl | rfl | rfl | rfl
    iterate 4 decide
    · exact not_control_digit _ (by omega)
    · exact not_control_digit _ (by omega)
  next hplain => exact List.mem_singleton.mp h ▸ hplain

/-- Control characters are written as escapes. -/
theorem not_control_of_mem_quote {s : String} {d : Char} (h : d ∈ quote s) : ¬ d.toNat < 0x20 := by
  simp only [quote, quoteChars, List.mem_cons, List.mem_append, List.mem_flatMap,
    List.not_mem_nil, or_false] at h
  rcases h with rfl | ⟨c, -, hd⟩ | rfl
  · decide
  · exact not_control_of_mem_escape hd
  · decide

/-- A written string and what follows it are determined by the text. -/
theorem quote_append_inj {s t : String} {left right : List Char}
    (h : quote s ++ left = quote t ++ right) : s = t ∧ left = right := by
  have hbody : s.toList.flatMap escape ++ '"' :: left =
      t.toList.flatMap escape ++ '"' :: right := by
    simpa [quote, quoteChars] using h
  have hread := congrArg stringBody? hbody
  simpa [stringBody?_escaped] using hread

end QuerySets.Json
