import QuerySets.Filter.Matcher
import QuerySets.Proofs.Text.Split
import QuerySets.Template.Literal

/-!
Patterns written between slashes. No option is a slash, so the last slash is the closing one
and there is at most one way to read a text as a pattern, whatever slashes the pattern has.
Matchers know every letter that can stand after it, so a pattern that was written in this way
is refused as a filter only if the pattern itself cannot be used.
-/

namespace QuerySets.Literal

/-- The letters that can be given as options. -/
def letters : List Char := ['i', 'm', 's', 'x']

/-- A text is a pattern between slashes with its options. -/
structure Written (text pattern options : String) : Prop where
  text_eq : text = "/" ++ pattern ++ "/" ++ options
  options : ∀ c ∈ options.toList, c ∈ letters

variable {text pattern options : String}

theorem isOption_iff (c : Char) : isOption c = true ↔ c ∈ letters := by
  simp [isOption, letters, or_assoc]

theorem Written.toList_text (h : Written text pattern options) :
    text.toList = '/' :: (pattern.toList ++ '/' :: options.toList) := by
  rw [h.text_eq]
  simp

theorem Written.slash_not_mem (h : Written text pattern options) : '/' ∉ options.toList := by
  intro hslash
  have hletter := h.options '/' hslash
  simp [letters] at hletter

theorem pattern?_of_written (h : Written text pattern options) :
    pattern? text = some (.regex pattern options) := by
  have hstart : Text.dropStart? ['/'] text.toList =
      some (pattern.toList ++ '/' :: options.toList) := by
    rw [h.toList_text]
    exact Text.dropStart?_append ['/'] _
  have hcut := Text.cutLast?_append h.slash_not_mem pattern.toList
  have hall : options.toList.all isOption = true :=
    List.all_eq_true.mpr fun c hc => (isOption_iff c).mpr (h.options c hc)
  simp only [pattern?, Option.bind_eq_bind, hstart, Option.bind_some, hcut, hall, if_true,
    String.ofList_toList]
  rfl

theorem exists_written_of_pattern? {v : Value} (h : pattern? text = some v) :
    ∃ pattern options, Written text pattern options := by
  simp only [pattern?, Option.bind_eq_bind, Option.bind_eq_some_iff] at h
  obtain ⟨body, hbody, ⟨pattern, options⟩, hcut, hoptions⟩ := h
  split at hoptions
  next hall =>
    refine ⟨String.ofList pattern, String.ofList options, ?_, ?_⟩
    · have htext := Text.eq_append_of_dropStart? hbody
      rw [Text.eq_append_of_cutLast? hcut] at htext
      apply String.toList_inj.mp
      simp [htext]
    · intro c hc
      rw [String.toList_ofList] at hc
      exact (isOption_iff c).mp (List.all_eq_true.mp hall c hc)
  next => cases hoptions

/-- The closing slash is the last one, so a text is written in one way only. -/
theorem Written.unique (h : Written text pattern options) {pattern' options' : String}
    (h' : Written text pattern' options') : pattern' = pattern ∧ options' = options := by
  have hsame := (pattern?_of_written h').symm.trans (pattern?_of_written h)
  injection hsame with hvalue
  injection hvalue with hpattern hoptions
  exact ⟨hpattern, hoptions⟩

/-- Matchers know all options that can be written, so that only the pattern is left to fail. -/
theorem Written.compile_cases (h : Written text pattern options) :
    (∃ read, Pattern.read (Matcher.flags options.toList) pattern = .ok read ∧
        Matcher.compile pattern options = .ok ⟨pattern, read⟩) ∨
      ∃ fault, Pattern.read (Matcher.flags options.toList) pattern = .error fault ∧
        Matcher.compile pattern options =
          .error (.invalidOperand "$regex" (.badPattern fault)) := by
  have hnone : options.toList.find? (!Matcher.isOption ·) = none := by
    rw [List.find?_eq_none]
    intro c hc
    have hoption : Matcher.isOption c = true := (isOption_iff c).mpr (h.options c hc)
    simp [hoption]
  simp only [Matcher.compile, hnone]
  cases Pattern.read (Matcher.flags options.toList) pattern with
  | ok read => exact Or.inl ⟨read, rfl, rfl⟩
  | error fault => exact Or.inr ⟨fault, rfl, rfl⟩

/-- A text is read as a pattern exactly if it is one between slashes, with options after it.
There is a single way to see it so, which gives the pattern and the options that are read; and
a matcher takes them whenever the pattern can be used under these options. -/
theorem pattern_decoded (text : String) :
    ((pattern? text).isSome ↔ ∃ pattern options, Written text pattern options) ∧
      ∀ pattern options, Written text pattern options →
        pattern? text = some (.regex pattern options) ∧
        (∀ pattern' options', Written text pattern' options' →
          pattern' = pattern ∧ options' = options) ∧
        ((∃ read, Pattern.read (Matcher.flags options.toList) pattern = .ok read ∧
            Matcher.compile pattern options = .ok ⟨pattern, read⟩) ∨
          ∃ fault, Pattern.read (Matcher.flags options.toList) pattern = .error fault ∧
            Matcher.compile pattern options =
              .error (.invalidOperand "$regex" (.badPattern fault))) := by
  refine ⟨⟨?read, ?written⟩, ?single⟩
  case read =>
    intro hread
    obtain ⟨v, hv⟩ := Option.isSome_iff_exists.mp hread
    exact exists_written_of_pattern? hv
  case written =>
    rintro ⟨pattern, options, h⟩
    rw [pattern?_of_written h]
    rfl
  case single =>
    intro pattern options h
    exact ⟨pattern?_of_written h, fun _ _ h' => h.unique h', h.compile_cases⟩

/-- A pattern with slashes and option letters in it, read with one option. -/
theorem pattern_decoded_sample :
    Written "/^a/i/s" "^a/i" "s" ∧ pattern? "/^a/i/s" = some (.regex "^a/i" "s") ∧
      (∀ pattern' options', Written "/^a/i/s" pattern' options' →
        pattern' = "^a/i" ∧ options' = "s") ∧
      (∃ m, Matcher.compile "^a/i" "s" = .ok m) ∧ pattern? "/^a/g" = none := by
  have hwritten : Written "/^a/i/s" "^a/i" "s" := ⟨rfl, by simp [letters]⟩
  obtain ⟨hread, hunique, hcompile⟩ := (pattern_decoded "/^a/i/s").2 _ _ hwritten
  refine ⟨hwritten, hread, hunique, ?_, by decide⟩
  rcases hcompile with ⟨read, -, hok⟩ | ⟨fault, hfault, -⟩
  · exact ⟨_, hok⟩
  · cases hfault

end QuerySets.Literal
