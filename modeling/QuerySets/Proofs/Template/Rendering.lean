import QuerySets.Proofs.Fields
import QuerySets.Proofs.Template.Saved
import QuerySets.Proofs.Traversal
import QuerySets.Proofs.Value.Nodes

/-!
What rendering keeps. Every entry of a document is rendered, and the rendered entries are
written one after the other. So a document keeps all its entries if its keys are still apart
after the substitution, and otherwise an entry is lost to a later one. Keys without braces
stay apart whatever the variables are.
-/

namespace QuerySets

namespace Scope

/-- An entry and what it is rendered as. -/
def Renders (s : Scope) (written rendered : String × Value) : Prop :=
  rendered.1 = s.vars.substitute written.1 ∧ s.renderValue written.2 = .ok rendered.2

variable {s : Scope}

/-- The rendered entries are written one after the other over what there is. -/
theorem exists_pairs_of_renderEntries {entries : List (String × Value)} {out rendered : Document}
    (h : s.renderEntries out entries = .ok rendered) :
    ∃ pairs, List.Forall₂ s.Renders entries pairs ∧
      rendered = pairs.foldl (fun d pair => d.insert pair.1 pair.2) out := by
  induction entries generalizing out with
  | nil =>
    cases h
    exact ⟨[], .nil, rfl⟩
  | cons entry rest ih =>
    obtain ⟨key, written⟩ := entry
    simp only [renderEntries, bind, Except.bind] at h
    cases hvalue : s.renderValue written with
    | error e => rw [hvalue] at h; cases h
    | ok v =>
      simp only [hvalue] at h
      cases hcheck : s.checkList (s.vars.substitute key) written v with
      | error e => rw [hcheck] at h; cases h
      | ok _ =>
        rw [hcheck] at h
        obtain ⟨pairs, hpairs, hrendered⟩ := ih h
        exact ⟨(s.vars.substitute key, v) :: pairs, .cons ⟨rfl, hvalue⟩ hpairs, hrendered⟩

theorem exists_pairs_of_render {d rendered : Document} (h : s.render d = .ok rendered) :
    ∃ pairs, List.Forall₂ s.Renders d.entries pairs ∧ rendered = .ofList pairs :=
  exists_pairs_of_renderEntries h

theorem keys_of_renders {entries pairs : List (String × Value)}
    (h : List.Forall₂ s.Renders entries pairs) :
    pairs.map (·.1) = (entries.map (·.1)).map s.vars.substitute := by
  induction h with
  | nil => rfl
  | cons hfirst _ ih => rw [List.map_cons, List.map_cons, List.map_cons, hfirst.1, ih]

theorem exists_render_of_renderValue {d : Document} {v : Value}
    (h : s.renderValue (.document d) = .ok v) :
    ∃ rendered, s.render d = .ok rendered ∧ v = .document rendered := by
  obtain ⟨entries⟩ := d
  simp only [renderValue, bind, Except.bind] at h
  cases hentries : s.renderEntries Fields.empty entries with
  | error e => rw [hentries] at h; cases h
  | ok rendered =>
    rw [hentries] at h
    cases h
    exact ⟨rendered, hentries, rfl⟩

theorem exists_renderValue_of_mem {items : List Value} {outs : List Value}
    (h : s.renderItems items = .ok outs) {v : Value} (hv : v ∈ items) :
    ∃ rendered, s.renderValue v = .ok rendered := by
  induction items generalizing outs with
  | nil => cases hv
  | cons item rest ih =>
    simp only [renderItems, bind, Except.bind] at h
    cases hitem : s.renderValue item with
    | error e => rw [hitem] at h; cases h
    | ok first =>
      simp only [hitem] at h
      cases hrest : s.renderItems rest with
      | error e => rw [hrest] at h; cases h
      | ok others =>
        rcases List.mem_cons.mp hv with rfl | hv
        · exact ⟨first, hitem⟩
        · exact ih hrest hv

/-- Where a value is rendered, so is every document in it. -/
theorem exists_render_of_hasNode {v : Value} {node : Document} (hnode : v.HasNode node) :
    ∀ {out : Value}, s.renderValue v = .ok out → ∃ rendered, s.render node = .ok rendered := by
  induction hnode with
  | here d =>
    intro out h
    obtain ⟨rendered, hrendered, -⟩ := exists_render_of_renderValue h
    exact ⟨rendered, hrendered⟩
  | field hentry _ ih =>
    intro out h
    obtain ⟨rendered, hrendered, -⟩ := exists_render_of_renderValue h
    obtain ⟨pairs, hpairs, -⟩ := exists_pairs_of_render hrendered
    obtain ⟨pair, -, hpair⟩ := exists_related hpairs hentry
    exact ih hpair.2
  | @item items node v hitem _ ih =>
    intro out h
    simp only [renderValue, bind, Except.bind] at h
    cases hitems : s.renderItems items with
    | error e => rw [hitems] at h; cases h
    | ok outs =>
      obtain ⟨first, hfirst⟩ := exists_renderValue_of_mem hitems hitem
      exact ih hfirst

/-- In a stage that is rendered, every document has all its entries rendered one by one, under
their substituted keys and in their order, and the later one of two entries with the same key
replaces the earlier one. So they are all kept exactly if the substituted keys are apart. -/
theorem entries_rendered_iff {stage out : Document} (h : s.render stage = .ok out)
    {node : Document} (hnode : (Value.document stage).HasNode node) :
    ∃ (rendered : Document) (pairs : List (String × Value)), s.render node = .ok rendered ∧
      List.Forall₂ s.Renders node.entries pairs ∧ rendered = .ofList pairs ∧
      (rendered.entries = pairs ↔ (node.keys.map s.vars.substitute).Nodup) := by
  have hvalue : s.renderValue (.document stage) = .ok (.document out) := by
    obtain ⟨entries⟩ := stage
    simp only [renderValue, bind, Except.bind]
    rw [show s.renderEntries Fields.empty entries = .ok out from h]
    rfl
  obtain ⟨rendered, hrendered⟩ := exists_render_of_hasNode hnode hvalue
  obtain ⟨pairs, hpairs, rfl⟩ := exists_pairs_of_render hrendered
  refine ⟨_, pairs, hrendered, hpairs, rfl, ?_⟩
  rw [Fields.entries_ofList_iff, keys_of_renders hpairs]
  rfl

section Samples

/-- Renders with one variable, whose value is the name of a field. -/
def naming : Scope := ⟨⟨[("field", "status")]⟩, .empty, ⟨0, 0⟩⟩

/-- Two clauses, of which the second one names its field by a variable. -/
def clauses (key : String) : Document := ⟨[(key, .string "public"), ("{field}", .string "open")]⟩

theorem entries_rendered_iff_sample :
    let stage : Document := ⟨[("$match", .document (clauses "owner"))]⟩
    let both : List (String × Value) := [("owner", .string "public"), ("status", .string "open")]
    naming.render stage = .ok ⟨[("$match", .document ⟨both⟩)]⟩ ∧
      (Value.document stage).HasNode (clauses "owner") ∧
      ∃ (rendered : Document) (pairs : List (String × Value)),
        naming.render (clauses "owner") = .ok rendered ∧
          List.Forall₂ naming.Renders (clauses "owner").entries pairs ∧
          rendered = .ofList pairs ∧
          (rendered.entries = pairs ↔
            ((clauses "owner").keys.map naming.vars.substitute).Nodup) := by
  intro stage both
  have hstage : naming.render stage = .ok ⟨[("$match", .document ⟨both⟩)]⟩ := rfl
  have hnode : (Value.document stage).HasNode (clauses "owner") :=
    .field List.mem_cons_self (.here _)
  exact ⟨hstage, hnode, entries_rendered_iff hstage hnode⟩

/-- A variable that has the name of another field as its value takes the clause on that field. -/
theorem clause_lost :
    naming.render ⟨[("$match", .document (clauses "status"))]⟩ =
        .ok ⟨[("$match", .document ⟨[("status", .string "open")]⟩)]⟩ ∧
      naming.render (clauses "status") = .ok ⟨[("status", .string "open")]⟩ ∧
      ¬ List.Forall₂ naming.Renders (clauses "status").entries [("status", .string "open")] := by
  refine ⟨rfl, rfl, ?_⟩
  intro hall
  exact absurd hall.length_eq (by decide)

end Samples

end Scope

end QuerySets
