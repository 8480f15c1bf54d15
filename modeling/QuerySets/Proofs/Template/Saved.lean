import QuerySets.Proofs.Text.Numeral
import QuerySets.Proofs.Text.Split
import QuerySets.Template.Rendering

/-!
Directives that read saved documents. A text without an opening brace is rendered as it
stands, and one of the form `#data.selector:key` reads what the bag holds under the key,
if the selector is a star or the numeral of a word. What follows the first point of the
payload is no part of the key: it leads into the documents.
-/

namespace QuerySets

namespace Variables

/-- No token starts before the first opening brace. -/
theorem substituteChars_append (vars : Variables) {before : List Char} (h : '{' ∉ before)
    (cs : List Char) :
    vars.substituteChars (before ++ cs) = before ++ vars.substituteChars cs := by
  unfold substituteChars
  induction before with
  | nil => rfl
  | cons c rest ih =>
    obtain ⟨hc, hrest⟩ := not_or.mp (mt List.mem_cons.mpr h)
    simp only [List.cons_append, substituteFrom, if_neg (Ne.symm hc), ih hrest]

theorem substituteChars_of_not_mem (vars : Variables) {cs : List Char} (h : '{' ∉ cs) :
    vars.substituteChars cs = cs := by
  have hcs := vars.substituteChars_append h []
  rwa [List.append_nil, show vars.substituteChars [] = [] from rfl, List.append_nil] at hcs

theorem substitute_of_not_mem (vars : Variables) {text : String} (h : '{' ∉ text.toList) :
    vars.substitute text = text := by
  rw [substitute, substituteChars_of_not_mem vars h, String.ofList_toList]

/-- Without variables every token stays, as does a brace that is still open at the end. -/
theorem substituteFrom_empty (name : Option (List Char)) (cs : List Char) :
    substituteFrom Fields.empty name cs =
      name.elim cs fun name => '{' :: (name.reverse ++ cs) := by
  induction cs generalizing name with
  | nil => cases name <;> simp [substituteFrom]
  | cons c rest ih =>
    cases name with
    | none =>
      by_cases hopen : c = '{'
      · simp [substituteFrom, hopen, ih]
      · simp [substituteFrom, hopen, ih]
    | some name =>
      by_cases hopen : c = '{'
      · simp [substituteFrom, hopen, ih]
      · by_cases hclose : c = '}'
        · have htoken : ofToken Fields.empty name.reverse = '{' :: (name.reverse ++ ['}']) := rfl
          simp [substituteFrom, hclose, ih, htoken]
        · simp [substituteFrom, hopen, hclose, ih]

theorem substitute_empty (text : String) : substitute Fields.empty text = text := by
  rw [substitute, substituteChars, substituteFrom_empty]
  exact String.ofList_toList

end Variables

namespace Directive

/-- How documents saved under a key are asked for. -/
def written (selector key : String) : String := "#data." ++ selector ++ ":" ++ key

theorem toList_written (selector key : String) :
    (written selector key).toList =
      '#' :: (("data".toList ++ '.' :: selector.toList) ++ ':' :: key.toList) := by
  simp [written, String.toList_append]

theorem plain?_of_data (cs : List Char) (payload : String) :
    plain? (String.ofList ("data".toList ++ '.' :: cs)) payload = none := by
  unfold plain?
  split
  all_goals first
    | rfl
    | next heq =>
      have hchars := congrArg String.toList heq
      simp at hchars

theorem substitute_written (vars : Variables) {selector : String} (h : '{' ∉ selector.toList)
    (payload : String) :
    vars.substitute (written selector payload) = written selector (vars.substitute payload) := by
  have hstart : '{' ∉ '#' :: ("data".toList ++ '.' :: selector.toList) ++ [':'] := by
    simpa using h
  have hwritten : (written selector payload).toList =
      ('#' :: ("data".toList ++ '.' :: selector.toList) ++ [':']) ++ payload.toList := by
    simp [toList_written]
  apply String.toList_injective
  rw [Variables.substitute, String.toList_ofList, hwritten,
    Variables.substituteChars_append vars hstart, toList_written, Variables.substitute,
    String.toList_ofList]
  simp

/-- A directive with a selector is read by its selector, and its payload is the source. -/
theorem read?_written {selector payload : String} (hselector : ':' ∉ selector.toList) :
    read? (written selector payload) =
      some ((Directive.selector (written selector payload) selector.toList).map
        fun selector => .data selector (source payload.toList).1 (source payload.toList).2) := by
  have hkind : ':' ∉ "data".toList ++ '.' :: selector.toList := by
    simpa using hselector
  have hhash : Text.dropStart? ['#'] (written selector payload).toList =
      some (("data".toList ++ '.' :: selector.toList) ++ ':' :: payload.toList) := by
    rw [toList_written]
    exact Text.dropStart?_append ['#'] _
  simp only [read?, hhash, Option.bind_eq_bind, Option.bind_some, Text.cutFirst?_append hkind,
    plain?_of_data, Text.dropStart?_append, saved]
  rfl

theorem source_of_not_mem {key : String} (h : '.' ∉ key.toList) :
    source key.toList = (key, none) := by
  simp only [source, Text.cutFirst?_of_not_mem h, String.ofList_toList]

/-- The key ends at the first point, and a path without characters is none. -/
theorem source_append {key : String} (h : '.' ∉ key.toList) (path : String) :
    source (key ++ "." ++ path).toList = (key, if path = "" then none else some path) := by
  have hcut : (key ++ "." ++ path).toList = key.toList ++ '.' :: path.toList := by
    simp [String.toList_append]
  have hempty : path.toList.isEmpty = true ↔ path = "" := by
    rw [List.isEmpty_iff, String.toList_eq_nil_iff]
  simp only [source, hcut, Text.cutFirst?_append h, String.ofList_toList, hempty]

theorem selector_star (raw : String) : selector raw "*".toList = .ok .all := rfl

theorem selector_ofNat (raw : String) (n : Nat) :
    selector raw (Text.Numeral.ofNat n) =
      if n < UInt64.size then .ok (.index n)
      else .error (.badSelector raw (String.ofList (Text.Numeral.ofNat n))) := by
  unfold selector
  split
  next h => exact absurd h (Text.Numeral.ofNat_ne_nil n)
  next h => exact absurd rfl (Text.Numeral.head_ofNat_ne h '*' rfl)
  next =>
    rw [Text.Numeral.word?_ofNat]
    by_cases hn : n < UInt64.size
    · simp only [if_pos hn]
    · simp only [if_neg hn]

end Directive

namespace Scope

variable {s : Scope} {key : String}

/-- Variables are substituted in the payload, and then its source is read. -/
theorem renderText_payload {selector payload : String} (hcolon : ':' ∉ selector.toList)
    (hselector : '{' ∉ selector.toList) (hkey : s.vars.substitute payload = key) :
    s.renderText (Directive.written selector payload) =
      (Directive.selector (Directive.written selector key) selector.toList).bind
        fun selector => s.savedValue selector (Directive.source key.toList).1
          (Directive.source key.toList).2 := by
  simp only [renderText, Directive.substitute_written s.vars hselector, hkey,
    Directive.read?_written hcolon]
  cases Directive.selector (Directive.written selector key) selector.toList <;> rfl

theorem renderText_written {selector : String} (hcolon : ':' ∉ selector.toList)
    (hselector : '{' ∉ selector.toList) (hdot : '.' ∉ key.toList) (hbrace : '{' ∉ key.toList) :
    s.renderText (Directive.written selector key) =
      (Directive.selector (Directive.written selector key) selector.toList).bind
        fun selector => s.savedValue selector key none := by
  rw [renderText_payload hcolon hselector (s.vars.substitute_of_not_mem hbrace),
    Directive.source_of_not_mem hdot]

theorem renderText_payload_all {payload : String} (hkey : s.vars.substitute payload = key) :
    s.renderText (Directive.written "*" payload) =
      s.savedValue .all (Directive.source key.toList).1 (Directive.source key.toList).2 := by
  rw [renderText_payload (by decide) (by decide) hkey, Directive.selector_star]
  rfl

theorem renderText_all (hdot : '.' ∉ key.toList) (hbrace : '{' ∉ key.toList) :
    s.renderText (Directive.written "*" key) = s.savedValue .all key none := by
  rw [renderText_payload_all (s.vars.substitute_of_not_mem hbrace),
    Directive.source_of_not_mem hdot]

theorem renderText_numeral (hdot : '.' ∉ key.toList) (hbrace : '{' ∉ key.toList) (n : Nat) :
    s.renderText (Directive.written (toString n) key) =
      if n < UInt64.size then s.savedValue (.index n) key none
      else .error (.badSelector (Directive.written (toString n) key) (toString n)) := by
  have hdigits : (toString n).toList = Text.Numeral.ofNat n := String.toList_ofList
  have hno : ∀ c : Char, c.isDigit = false → c ∉ (toString n).toList := by
    intro c hc hmem
    rw [hdigits] at hmem
    rw [Text.Numeral.isDigit_of_mem_ofNat hmem] at hc
    cases hc
  rw [renderText_written (hno ':' rfl) (hno '{' rfl) hdot hbrace, hdigits,
    Directive.selector_ofNat]
  by_cases hn : n < UInt64.size
  · rw [if_pos hn, if_pos hn]
    rfl
  · rw [if_neg hn, if_neg hn]
    rfl

/-- A numeral that fits in no word is no selector, whatever has been saved. -/
theorem renderText_beyond_word (hdot : '.' ∉ key.toList) (hbrace : '{' ∉ key.toList) {n : Nat}
    (hn : UInt64.size ≤ n) :
    s.renderText (Directive.written (toString n) key) =
      .error (.badSelector (Directive.written (toString n) key) (toString n)) := by
  rw [renderText_numeral hdot hbrace, if_neg (Nat.not_lt.mpr hn)]

theorem savedValue_of_unsaved (h : s.bag.saved.get? key = none) (selector : Selector)
    (path : Option String) : s.savedValue selector key path = .error (.keyNotFound key) := by
  simp only [savedValue, Bag.get, h]
  rfl

theorem savedValue_parts {docs : List Document} (h : s.bag.saved.get? key = some docs)
    (path : Option String) :
    s.savedValue .all key path = .ok (.array (docs.filterMap (part? path))) := by
  simp only [savedValue, Bag.get, h, bind, Except.bind]
  rfl

theorem savedValue_all {docs : List Document} (h : s.bag.saved.get? key = some docs) :
    s.savedValue .all key none = .ok (.array (docs.map .document)) := by
  have hwhole : docs.filterMap (part? none) = docs.map .document :=
    congrFun (List.filterMap_eq_map (f := Value.document)) docs
  rw [savedValue_parts h, hwhole]

theorem savedValue_index {docs : List Document} (h : s.bag.saved.get? key = some docs) {n : Nat}
    {d : Document} (hd : docs[n]? = some d) :
    s.savedValue (.index n) key none = .ok (.document d) := by
  simp only [savedValue, Bag.get, h, bind, Except.bind, hd]
  rfl

theorem savedValue_outOfRange {docs : List Document} (h : s.bag.saved.get? key = some docs)
    {n : Nat} (hn : docs.length ≤ n) (path : Option String) :
    s.savedValue (.index n) key path = .error (.indexOutOfRange key n docs.length) := by
  have hnone : docs[n]? = none := List.getElem?_eq_none hn
  simp only [savedValue, Bag.get, h, bind, Except.bind, hnone]

end Scope

end QuerySets
