import QuerySets.Value

/-!
The documents and the scalars in a value. What holds of every document at every depth is
stated over the ones, what holds of every other value over the others.
-/

namespace QuerySets

namespace Value

/-- The documents that a value is or contains, through fields and items. -/
inductive HasNode : Value → Document → Prop
  | here (d : Document) : HasNode (.document d) d
  | field {d node : Document} {key : String} {v : Value} :
      (key, v) ∈ d.entries → HasNode v node → HasNode (.document d) node
  | item {items : List Value} {node : Document} {v : Value} :
      v ∈ items → HasNode v node → HasNode (.array items) node

/-- A value that is no container. -/
def IsScalar : Value → Prop
  | .document _ | .array _ => False
  | _ => True

theorem not_hasNode_scalar {v : Value} (h : v.IsScalar) (node : Document) :
    ¬ v.HasNode node := by
  intro hnode
  cases hnode <;> exact h

/-- The scalars that a value is or contains, through fields and items. -/
inductive HasScalar : Value → Value → Prop
  | here {v : Value} : v.IsScalar → HasScalar v v
  | field {d : Document} {key : String} {v x : Value} :
      (key, v) ∈ d.entries → HasScalar v x → HasScalar (.document d) x
  | item {items : List Value} {v x : Value} :
      v ∈ items → HasScalar v x → HasScalar (.array items) x

/-- What holds of scalars, and of containers if it holds of their contents, holds of all
values. -/
@[elab_as_elim]
theorem induction {motive : Value → Prop} (scalar : ∀ v : Value, v.IsScalar → motive v)
    (array : ∀ items, (∀ v ∈ items, motive v) → motive (.array items))
    (document : ∀ d : Document, (∀ e ∈ d.entries, motive e.2) → motive (.document d))
    (v : Value) : motive v := by
  refine @Value.rec motive (fun items => ∀ v ∈ items, motive v)
    (fun d => ∀ e ∈ d.entries, motive e.2) (fun entries => ∀ e ∈ entries, motive e.2)
    (fun e => motive e.2)
    (scalar _ trivial) (fun _ => scalar _ trivial) (fun _ => scalar _ trivial)
    (fun _ => scalar _ trivial) (fun _ => scalar _ trivial) (fun _ => scalar _ trivial)
    (fun _ => scalar _ trivial) (fun _ _ => scalar _ trivial) array document ?_ ?_
    (fun _ h => h) ?_ ?_ (fun _ _ h => h) v
  · exact fun v hv => absurd hv List.not_mem_nil
  · exact fun _ _ hfirst hrest => List.forall_mem_cons.mpr ⟨hfirst, hrest⟩
  · exact fun e he => absurd he List.not_mem_nil
  · exact fun _ _ hfirst hrest => List.forall_mem_cons.mpr ⟨hfirst, hrest⟩

/-- What holds of a document if it holds of the documents in its fields, at every depth, holds of
all documents. -/
@[elab_as_elim]
theorem documentInduction {motive : Document → Prop}
    (step : ∀ d : Document, (∀ e ∈ d.entries, ∀ node, HasNode e.2 node → motive node) → motive d)
    (d : Document) : motive d := by
  have hall : ∀ v : Value, ∀ node, v.HasNode node → motive node := by
    intro v
    induction v using Value.induction with
    | scalar v hscalar => exact fun node hnode => absurd hnode (not_hasNode_scalar hscalar node)
    | array items ih =>
      rintro node (_ | _ | ⟨hitem, hnode⟩)
      exact ih _ hitem node hnode
    | document d ih =>
      rintro node (_ | ⟨hentry, hnode⟩)
      · exact step d ih
      · exact ih _ hentry node hnode
  exact hall (.document d) d (.here d)

theorem hasScalar_iff_of_isScalar {v x : Value} (h : v.IsScalar) : v.HasScalar x ↔ x = v := by
  constructor
  · intro hx
    cases hx with
    | here => rfl
    | field => exact h.elim
    | item => exact h.elim
  · rintro rfl
    exact .here h

theorem hasScalar_array {items : List Value} {x : Value} :
    (array items).HasScalar x ↔ ∃ v ∈ items, v.HasScalar x := by
  constructor
  · intro hx
    cases hx with
    | here h => exact h.elim
    | item hv hx => exact ⟨_, hv, hx⟩
  · rintro ⟨v, hv, hx⟩
    exact .item hv hx

theorem hasScalar_document {d : Document} {x : Value} :
    (document d).HasScalar x ↔ ∃ e ∈ d.entries, e.2.HasScalar x := by
  constructor
  · intro hx
    cases hx with
    | here h => exact h.elim
    | field he hx => exact ⟨_, he, hx⟩
  · rintro ⟨e, he, hx⟩
    exact .field he hx

theorem hasNode_array {items : List Value} {node : Document} :
    (array items).HasNode node ↔ ∃ v ∈ items, v.HasNode node := by
  constructor
  · intro hnode
    cases hnode with
    | item hv hnode => exact ⟨_, hv, hnode⟩
  · rintro ⟨v, hv, hnode⟩
    exact .item hv hnode

theorem hasNode_document {d node : Document} :
    (document d).HasNode node ↔ node = d ∨ ∃ e ∈ d.entries, e.2.HasNode node := by
  constructor
  · intro hnode
    cases hnode with
    | here => exact Or.inl rfl
    | field he hnode => exact Or.inr ⟨_, he, hnode⟩
  · rintro (rfl | ⟨e, he, hnode⟩)
    · exact .here _
    · exact .field he hnode

section Nodes

mutual
/-- The documents that a value is or contains, in the order in which they are written. -/
def nodes : Value → List Document
  | .array items => itemsNodes items
  | .document ⟨entries⟩ => ⟨entries⟩ :: entriesNodes entries
  | _ => []

def itemsNodes : List Value → List Document
  | [] => []
  | v :: rest => nodes v ++ itemsNodes rest

def entriesNodes : List (String × Value) → List Document
  | [] => []
  | (_, v) :: rest => nodes v ++ entriesNodes rest
end

theorem itemsNodes_eq (items : List Value) : itemsNodes items = items.flatMap nodes := by
  induction items with
  | nil => rfl
  | cons v rest ih => rw [itemsNodes, ih, List.flatMap_cons]

theorem entriesNodes_eq (entries : List (String × Value)) :
    entriesNodes entries = entries.flatMap (nodes ·.2) := by
  induction entries with
  | nil => rfl
  | cons e rest ih => rw [entriesNodes, ih, List.flatMap_cons]

theorem mem_nodes_iff {v : Value} {node : Document} : node ∈ v.nodes ↔ v.HasNode node := by
  induction v using Value.induction with
  | scalar v h =>
    have hnone : v.nodes = [] := by
      cases v <;> first | rfl | cases h
    rw [hnone]
    exact iff_of_false List.not_mem_nil (not_hasNode_scalar h node)
  | array items ih =>
    rw [nodes, itemsNodes_eq, List.mem_flatMap, hasNode_array]
    exact exists_congr fun v => and_congr_right fun hv => ih v hv
  | document d ih =>
    rw [nodes, entriesNodes_eq, List.mem_cons, List.mem_flatMap, hasNode_document]
    exact or_congr Iff.rfl (exists_congr fun e => and_congr_right fun he => ih e he)

end Nodes

end Value

end QuerySets
