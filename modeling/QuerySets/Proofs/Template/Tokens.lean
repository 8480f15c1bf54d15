import QuerySets.Proofs.Template.Saved

/-!
Tokens in a text. A name in braces is a token if there is no brace in it; other braces are text,
so of nested ones only the innermost make a token. Every text is cut at its tokens, and
substitution puts the value of a variable in the place of each token that names one. What the
scan carries along after an opening brace is text again as soon as no token can come of it.
-/

namespace QuerySets

namespace Token

/-- What may stand between the braces of a token. -/
def IsName (name : List Char) : Prop := '{' ∉ name ∧ '}' ∉ name

/-- A name in braces. -/
def written (name : List Char) : List Char := '{' :: (name ++ ['}'])

/-- The token of a name stands in the text. -/
def Occurs (name text : List Char) : Prop := IsName name ∧ written name <:+: text

/-- A text without tokens. There may be braces in it. -/
def Free (text : List Char) : Prop := ∀ name, ¬ Occurs name text

/-- A text cut at its tokens. -/
inductive Cut
  | last (plain : List Char) (free : Free plain)
  | next (plain : List Char) (free : Free plain) (name : List Char) (isName : IsName name)
      (rest : Cut)

namespace Cut

/-- The text with something in the place of each token. -/
def fill (f : List Char → List Char) : Cut → List Char
  | last plain _ => plain
  | next plain _ name _ rest => plain ++ (f name ++ rest.fill f)

/-- The names in the tokens, in their order. -/
def names : Cut → List (List Char)
  | last _ _ => []
  | next _ _ name _ rest => name :: rest.names

def text (c : Cut) : List Char := c.fill written

/-- A token with a cut text on either side. -/
def join (before : Cut) (name : List Char) (isName : IsName name) (after : Cut) : Cut :=
  match before with
  | last plain free => next plain free name isName after
  | next plain free first isFirst rest =>
    next plain free first isFirst (rest.join name isName after)

theorem fill_join (f : List Char → List Char) {name : List Char} (isName : IsName name)
    (before after : Cut) :
    (before.join name isName after).fill f = before.fill f ++ (f name ++ after.fill f) := by
  induction before with
  | last plain free => rfl
  | next plain free first isFirst rest ih => simp only [join, fill, ih, List.append_assoc]

theorem fill_congr {f g : List Char → List Char} (c : Cut) (h : ∀ name ∈ c.names, f name = g name) :
    c.fill f = c.fill g := by
  induction c with
  | last plain free => rfl
  | next plain free name isName rest ih =>
    obtain ⟨hname, hrest⟩ := List.forall_mem_cons.mp h
    rw [fill, fill, hname, ih hrest]

end Cut

variable {name own text part front rest : List Char}

theorem Occurs.mono (h : Occurs name part) (hpart : part <:+: text) : Occurs name text :=
  ⟨h.1, h.2.trans hpart⟩

theorem Free.mono (h : Free text) (hpart : part <:+: text) : Free part :=
  fun name hoccurs => h name (hoccurs.mono hpart)

theorem free_of_not_open (h : '{' ∉ text) : Free text :=
  fun _ hoccurs => h (hoccurs.2.subset List.mem_cons_self)

theorem free_of_not_close (h : '}' ∉ text) : Free text :=
  fun name hoccurs => h (hoccurs.2.subset (by simp [written]))

section Joints

/-- The text goes on with nothing or with a brace that is opened. -/
def Opens (text : List Char) : Prop := ∀ c ∈ text.head?, c = '{'

theorem opens_written (name rest : List Char) : Opens (written name ++ rest) := by
  simp [Opens, written]

/-- What has no opening brace does not reach into a text that starts with one. -/
theorem prefix_of_opens (hpart : '{' ∉ part) (hrest : Opens rest) (h : part <+: front ++ rest) :
    part <+: front := by
  induction front generalizing part with
  | nil =>
    cases part with
    | nil => exact List.nil_prefix
    | cons c others =>
      obtain ⟨more, rfl⟩ := h
      exact absurd (hrest c rfl) (List.ne_of_not_mem_cons hpart).symm
  | cons a front ih =>
    cases part with
    | nil => exact List.nil_prefix
    | cons c others =>
      obtain ⟨rfl, hothers⟩ := List.cons_prefix_cons.mp h
      exact List.cons_prefix_cons.mpr ⟨rfl, ih (List.not_mem_of_not_mem_cons hpart) hothers⟩

/-- No token stands across the beginning of another one. -/
theorem occurs_append (hrest : Opens rest) :
    Occurs name (front ++ rest) ↔ Occurs name front ∨ Occurs name rest := by
  constructor
  · rintro ⟨hname, hoccurs⟩
    have hopen : '{' ∉ name ++ ['}'] := by simpa using hname.1
    induction front with
    | nil => exact Or.inr ⟨hname, hoccurs⟩
    | cons c front ih =>
      rcases List.infix_cons_iff.mp hoccurs with hstart | hlater
      · obtain ⟨rfl, hwithin⟩ := List.cons_prefix_cons.mp hstart
        have hfront : written name <+: '{' :: front :=
          List.cons_prefix_cons.mpr ⟨rfl, prefix_of_opens hopen hrest hwithin⟩
        exact Or.inl ⟨hname, hfront.isInfix⟩
      · exact (ih hlater).imp_left fun h => h.mono (List.suffix_cons c front).isInfix
  · rintro (h | h)
    · exact h.mono (List.prefix_append front rest).isInfix
    · exact h.mono (List.suffix_append front rest).isInfix

/-- A token starts with a brace that is opened. -/
theorem infix_of_not_open (hfront : '{' ∉ front) (h : written name <:+: front ++ rest) :
    written name <:+: rest := by
  induction front with
  | nil => exact h
  | cons c front ih =>
    rcases List.infix_cons_iff.mp h with hstart | hlater
    · have hopen : '{' = c := (List.cons_prefix_cons.mp hstart).1
      exact absurd hopen (List.ne_of_not_mem_cons hfront)
    · exact ih (List.not_mem_of_not_mem_cons hfront) hlater

theorem occurs_written_append (hown : IsName own) :
    Occurs name (written own ++ rest) ↔ name = own ∨ Occurs name rest := by
  have hwhole : written own ++ rest = '{' :: (own ++ '}' :: rest) := by simp [written]
  constructor
  · rintro ⟨hname, hoccurs⟩
    rw [hwhole] at hoccurs
    rcases List.infix_cons_iff.mp hoccurs with ⟨more, hmore⟩ | hlater
    · have hsame : name ++ '}' :: more = own ++ '}' :: rest := by simpa [written] using hmore
      have hcut := Text.cutFirst?_append hname.2 more
      rw [hsame, Text.cutFirst?_append hown.2] at hcut
      cases hcut
      exact Or.inl rfl
    · have hopen : '{' ∉ own ++ ['}'] := by simpa using hown.1
      have hrest : written name <:+: rest := infix_of_not_open hopen (by simpa using hlater)
      exact Or.inr ⟨hname, hrest⟩
  · rintro (rfl | h)
    · exact ⟨hown, (List.prefix_append _ rest).isInfix⟩
    · exact h.mono (List.suffix_append _ rest).isInfix

/-- The tokens of a text are those at which it is cut. -/
theorem occurs_text_iff (c : Cut) : Occurs name c.text ↔ name ∈ c.names := by
  induction c with
  | last plain free => simpa [Cut.text, Cut.fill, Cut.names] using free name
  | next plain free own isName rest ih =>
    rw [Cut.text, Cut.fill, occurs_append (opens_written own _), occurs_written_append isName,
      Cut.names, List.mem_cons, ← ih]
    simp [free name, Cut.text]

/-- Every text can be cut at its tokens: at any one of them, and then on both sides of it. -/
theorem exists_cut (text : List Char) : ∃ c : Cut, c.text = text := by
  induction hlength : text.length using Nat.strongRecOn generalizing text with
  | ind n ih =>
    by_cases hfree : Free text
    · exact ⟨.last text hfree, rfl⟩
    · obtain ⟨name, isName, before, after, rfl⟩ : ∃ name, Occurs name text := by
        simpa [Free] using hfree
      simp only [written, List.length_append, List.length_cons] at hlength
      obtain ⟨first, rfl⟩ := ih before.length (by omega) before rfl
      obtain ⟨last, rfl⟩ := ih after.length (by omega) after rfl
      refine ⟨first.join name isName last, ?_⟩
      rw [Cut.text, Cut.fill_join, List.append_assoc]
      rfl

end Joints

end Token

namespace Variables

open Token

/-- What has been read of the text since a brace was opened. -/
def held : Option (List Char) → List Char
  | none => []
  | some read => '{' :: read.reverse

/-- Text without tokens stays as it is, up to the next token. The text that counts is the one
together with what is held, as a token may have begun there. -/
theorem substituteFrom_free (vars : Variables) (read : Option (List Char)) {text rest : List Char}
    (hread : ∀ name ∈ read, IsName name) (hfree : Free (held read ++ text)) (hrest : Opens rest) :
    vars.substituteFrom read (text ++ rest) =
      held read ++ text ++ vars.substituteFrom none rest := by
  have hempty : ∀ name ∈ some ([] : List Char), IsName name := by simp [IsName]
  induction text generalizing read with
  | nil =>
    cases rest with
    | nil => cases read <;> simp [substituteFrom, held]
    | cons c rest =>
      obtain rfl : c = '{' := hrest c rfl
      cases read <;> simp [substituteFrom, held]
  | cons c text ih =>
    cases read with
    | none =>
      by_cases hopen : c = '{'
      · subst hopen
        simp only [List.cons_append, substituteFrom, if_true, ih _ hempty hfree]
        rfl
      · have hlater : Free (held none ++ text) := hfree.mono (List.suffix_cons c text).isInfix
        simp only [List.cons_append, substituteFrom, if_neg hopen, ih none hread hlater]
        rfl
    | some name =>
      by_cases hopen : c = '{'
      · subst hopen
        have hlater : Free ('{' :: text) := hfree.mono (List.suffix_append _ _).isInfix
        simp only [List.cons_append, substituteFrom, if_true, ih _ hempty hlater]
        simp [held]
      · by_cases hclose : c = '}'
        · -- With this brace what is held would be a token.
          subst hclose
          have hname : IsName name.reverse := by simpa [IsName] using hread name rfl
          refine absurd ⟨hname, [], text, ?_⟩ (hfree name.reverse)
          simp [held, written]
        · obtain ⟨hno, hnc⟩ := hread name rfl
          have hlonger : ∀ longer ∈ some (c :: name), IsName longer := by
            simp [IsName, hno, hnc, Ne.symm hopen, Ne.symm hclose]
          have hsame : held (some (c :: name)) ++ text = held (some name) ++ c :: text := by
            simp [held]
          simp only [List.cons_append, substituteFrom, if_neg hopen, if_neg hclose]
          rw [ih _ hlonger (hsame ▸ hfree), hsame]

/-- A name gives way when its brace is closed. -/
theorem substituteFrom_name (vars : Variables) {name : List Char} (hname : IsName name)
    (read rest : List Char) :
    vars.substituteFrom (some read) (name ++ '}' :: rest) =
      vars.ofToken (read.reverse ++ name) ++ vars.substituteFrom none rest := by
  induction name generalizing read with
  | nil => simp [substituteFrom]
  | cons c name ih =>
    obtain ⟨hopen, hno⟩ := not_or.mp (mt List.mem_cons.mpr hname.1)
    obtain ⟨hclose, hnc⟩ := not_or.mp (mt List.mem_cons.mpr hname.2)
    simp only [List.cons_append, substituteFrom, if_neg (Ne.symm hopen), if_neg (Ne.symm hclose),
      ih ⟨hno, hnc⟩]
    simp

theorem substituteChars_free (vars : Variables) {plain rest : List Char} (hfree : Free plain)
    (hrest : Opens rest) :
    vars.substituteChars (plain ++ rest) = plain ++ vars.substituteChars rest :=
  vars.substituteFrom_free none (by simp) hfree hrest

theorem substituteChars_written (vars : Variables) {name : List Char} (hname : IsName name)
    (rest : List Char) :
    vars.substituteChars (written name ++ rest) =
      vars.ofToken name ++ vars.substituteChars rest := by
  have hwhole : written name ++ rest = '{' :: (name ++ '}' :: rest) := by simp [written]
  rw [hwhole]
  exact vars.substituteFrom_name hname [] rest

theorem substituteChars_text (vars : Variables) (c : Cut) :
    vars.substituteChars c.text = c.fill vars.ofToken := by
  induction c with
  | last plain free =>
    have hplain : vars.substituteChars (plain ++ []) = plain ++ vars.substituteChars [] :=
      vars.substituteChars_free free (by simp [Opens])
    rwa [List.append_nil, show vars.substituteChars [] = [] from rfl, List.append_nil] at hplain
  | next plain free name isName rest ih =>
    rw [Cut.text, Cut.fill, vars.substituteChars_free free (opens_written name _),
      vars.substituteChars_written isName, ← Cut.text, ih, Cut.fill]

/-- Substitution puts the value of a variable in the place of each token that names one, whatever
stands in the value, and leaves all other tokens and all text between them. The tokens of a text
are those at which it is cut, and every text is cut somehow. -/
theorem substitute_cut (vars : Variables) :
    (∀ c : Cut,
      vars.substitute (String.ofList c.text) =
          String.ofList (c.fill fun name =>
            ((vars.get? (String.ofList name)).map String.toList).getD (written name)) ∧
        ∀ name, Occurs name c.text ↔ name ∈ c.names) ∧
      (∀ text : String, ∃ c : Cut, String.ofList c.text = text) ∧
      ∀ text : String,
        (∀ name, Occurs name text.toList → vars.get? (String.ofList name) = none) →
          vars.substitute text = text := by
  have htoken : vars.ofToken = fun name =>
      ((vars.get? (String.ofList name)).map String.toList).getD (written name) := by
    funext name
    unfold ofToken
    cases vars.get? (String.ofList name) <;> rfl
  have hcut : ∀ text : String, ∃ c : Cut, String.ofList c.text = text := by
    intro text
    obtain ⟨c, hc⟩ := exists_cut text.toList
    exact ⟨c, by rw [hc, String.ofList_toList]⟩
  refine ⟨fun c => ⟨?_, fun name => occurs_text_iff c⟩, hcut, ?_⟩
  · rw [substitute, String.toList_ofList, substituteChars_text, htoken]
  · intro text hunknown
    obtain ⟨c, rfl⟩ := hcut text
    rw [substitute, String.toList_ofList, substituteChars_text]
    rw [String.toList_ofList] at hunknown
    refine congrArg String.ofList (c.fill_congr fun name hname => ?_)
    rw [htoken]
    simp only [hunknown name ((occurs_text_iff c).mpr hname)]
    rfl

section Samples

/-- The value of one variable is the token of the other one. -/
def braced : Variables := ⟨[("state", "{city}"), ("city", "Tampa")]⟩

/-- The text `{a{state}}{b}`, whose outer braces belong to no token. -/
def nested : Cut :=
  .next ['{', 'a'] (free_of_not_close (by decide)) "state".toList ⟨by decide, by decide⟩
    (.next ['}'] (free_of_not_open (by decide)) ['b'] ⟨by decide, by decide⟩
      (.last [] (free_of_not_open (by decide))))

/-- A token without a value before a brace that is not closed. -/
def unknown : Cut :=
  .next [] (free_of_not_open (by decide)) ['b'] ⟨by decide, by decide⟩
    (.last ['{', 'c'] (free_of_not_close (by decide)))

theorem substitute_cut_nested :
    String.ofList nested.text = "{a{state}}{b}" ∧
      braced.substitute "{a{state}}{b}" = "{a{city}}{b}" ∧
      (∀ name, Occurs name (String.ofList unknown.text).toList →
        braced.get? (String.ofList name) = none) ∧
      braced.substitute (String.ofList unknown.text) = String.ofList unknown.text := by
  obtain ⟨hcuts, -, hsame⟩ := substitute_cut braced
  have hunknown : ∀ name, Occurs name (String.ofList unknown.text).toList →
      braced.get? (String.ofList name) = none := by
    intro name hoccurs
    rw [String.toList_ofList] at hoccurs
    obtain rfl : name = ['b'] := List.mem_singleton.mp (((hcuts unknown).2 name).mp hoccurs)
    decide
  exact ⟨by decide, (hcuts nested).1, hunknown, hsame _ hunknown⟩

end Samples

end Variables

end QuerySets
