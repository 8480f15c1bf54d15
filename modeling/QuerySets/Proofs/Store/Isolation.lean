import QuerySets.Proofs.Store.Agreement

/-!
Collections of a persistent store apart from each other. The documents of a collection stand
in a tree of its own, so that whatever is done to another collection leaves them alone. The
indexes of all collections share one tree. A scan for the name of a collection and a zero
character finds those of another one if the name of that goes on in the same way. Between
names of which neither goes on to the other one like that, as between any names without zero
characters, indexes do not mix either.
-/

namespace QuerySets

/-- The index was declared on the collection in the course of the events, and the collection
was not dropped after that. -/
def Store.DeclaredIn (events : List Store.Event) (name : String) (i : Index) : Prop :=
  ∃ before after, events = before ++ .request (.ensureIndex name i) :: after ∧
    .request (.drop name) ∉ after

theorem Store.DeclaredIn.concat {events : List Store.Event} {name : String} {i : Index}
    (h : Store.DeclaredIn events name i) {event : Store.Event}
    (hkept : event ≠ .request (.drop name)) : Store.DeclaredIn (events ++ [event]) name i := by
  obtain ⟨before, after, rfl, hafter⟩ := h
  refine ⟨before, after ++ [event], by simp, ?_⟩
  intro hdrop
  rcases List.mem_append.mp hdrop with hold | hnew
  · exact hafter hold
  · exact hkept (List.mem_singleton.mp hnew).symm

namespace PersistentStore

/-- Neither name goes on to the other one with a zero character. -/
structure NamesApart (name other : String) : Prop where
  forth : ¬ indexStart name <+: other.toList
  back : ¬ indexStart other <+: name.toList

theorem not_start_of_not_mem {name other : String} (h : '\x00' ∉ other.toList) :
    ¬ indexStart name <+: other.toList := by
  intro hstart
  refine h (hstart.subset ?_)
  exact List.mem_append_right _ List.mem_cons_self

/-- Names without zero characters are apart. -/
theorem namesApart_of_not_mem {name other : String} (h : '\x00' ∉ name.toList)
    (hother : '\x00' ∉ other.toList) : NamesApart name other where
  forth := not_start_of_not_mem hother
  back := not_start_of_not_mem h

theorem indexStart_inj {name other : String} (h : indexStart name = indexStart other) :
    name = other :=
  String.toList_inj.mp (List.append_cancel_right h)

/-- No key starts with both of two names that are apart. -/
theorem NamesApart.exclusive {name other : String} (h : NamesApart name other)
    (hne : name ≠ other) {key : List Char} (hkey : indexStart name <+: key) :
    ¬ indexStart other <+: key := by
  intro hother
  rcases List.prefix_or_prefix_of_prefix hkey hother with hshort | hlong
  · rcases List.prefix_concat_iff.mp hshort with heq | hstart
    · exact hne (indexStart_inj heq)
    · exact h.forth hstart
  · rcases List.prefix_concat_iff.mp hlong with heq | hstart
    · exact hne (indexStart_inj heq).symm
    · exact h.back hstart

section Requests

variable {s s' : PersistentStore} {request : Store.Request} {name : String}

theorem distinct_answer (h : s.data.Distinct)
    (hanswer : ((Store.persistent s).answer request).2 = .persistent s') : s'.data.Distinct := by
  rcases Store.Kind.persistent.answer_cases hanswer with rfl |
      ⟨ids, ids', other, docs, -, hinsert⟩ | ⟨other, i, -, hensure⟩ |
      ⟨other, -, rfl⟩
  · exact h
  · obtain rfl := keep_of_insert hinsert
    exact h.insert other _
  · rcases eq_or_insert_of_ensureIndex hensure with rfl | ⟨-, -, rfl⟩
    · exact h
    · exact h
  · exact h.erase other

/-- A request about another collection leaves the documents of a collection alone, whatever
the names are. -/
theorem documents_answer_of_ne (h : s.data.Distinct) (hne : request.collection ≠ name)
    (hanswer : ((Store.persistent s).answer request).2 = .persistent s') :
    s'.documents name = s.documents name := by
  rcases Store.Kind.persistent.answer_cases hanswer with rfl |
      ⟨ids, ids', other, docs, rfl, hinsert⟩ | ⟨other, i, -, hensure⟩ |
      ⟨other, rfl, rfl⟩
  · rfl
  · obtain rfl := keep_of_insert hinsert
    exact documents_keep_of_ne hne _
  · rcases eq_or_insert_of_ensureIndex hensure with rfl | ⟨-, -, rfl⟩
    · rfl
    · rfl
  · have hother : other ≠ name := hne
    rw [documents_eq, documents_eq, tree_drop h, if_neg hother]

/-- A request about a collection whose name is apart leaves the indexes alone too. -/
theorem indexes_answer_of_apart (hne : request.collection ≠ name)
    (hapart : NamesApart name request.collection)
    (hanswer : ((Store.persistent s).answer request).2 = .persistent s') :
    s'.indexes name = s.indexes name := by
  rcases Store.Kind.persistent.answer_cases hanswer with rfl |
      ⟨ids, ids', other, docs, rfl, hinsert⟩ | ⟨other, i, rfl, hensure⟩ |
      ⟨other, rfl, rfl⟩
  · rfl
  · obtain rfl := keep_of_insert hinsert
    rfl
  · rcases eq_or_insert_of_ensureIndex hensure with rfl | ⟨-, -, rfl⟩
    · rfl
    · have hkey : ¬ indexStart name <+: indexStart other ++ i.name.toList := fun hstart =>
        hapart.exclusive hne.symm hstart (List.prefix_append _ _)
      rw [indexes, indexes, Tree.scan_insert_of_not_prefix hkey]
  · have hscan : (s.indexTree.eraseAll (indexStart other)).scan (indexStart name) =
        s.indexTree.scan (indexStart name) :=
      Tree.scan_eraseAll_of_apart s.indexTree fun _ hstart => hapart.exclusive hne.symm hstart
    exact congrArg (·.mapM decodeIndex) hscan

end Requests

section Runs

variable {s s' : PersistentStore} {name : String}

/-- What each event keeps of a store and of the events before it, a run keeps. -/
theorem exists_follow (P : List Store.Event → PersistentStore → Prop) (events : List Store.Event)
    (hanswer : ∀ past s s' request, .request request ∈ events → P past s →
      ((Store.persistent s).answer request).2 = .persistent s' →
      P (past ++ [.request request]) s')
    (hreopen : ∀ past s aside, P past s →
      P (past ++ [.reopen aside]) { s with count := s.count + aside })
    (past : List Store.Event) (h : P past s) :
    ∃ s', ((Store.persistent s).follow events).2 = .persistent s' ∧ P (past ++ events) s' := by
  induction events generalizing past s with
  | nil => exact ⟨s, rfl, (List.append_nil past).symm ▸ h⟩
  | cons event rest ih =>
    have hrest := fun past s s' request hmem =>
      hanswer past s s' request (List.mem_cons_of_mem _ hmem)
    rw [List.append_cons]
    cases event with
    | request request =>
      obtain ⟨after, hafter, -⟩ := Store.Kind.persistent.exists_answer s request
      simp only [Store.follow, hafter]
      exact ih hrest _ (hanswer _ _ _ _ List.mem_cons_self h hafter)
    | reopen aside => exact ih hrest _ (hreopen _ _ aside h)

/-- What is found under the name of a collection are indexes that were declared on it. -/
def Scoped (name : String) (events : List Store.Event) (s : PersistentStore) : Prop :=
  ∀ entry ∈ s.indexTree.entries, indexStart name <+: entry.1 →
    ∃ i : Index, entry.2 = i.toJson ∧ Store.DeclaredIn events name i

theorem Scoped.concat {events : List Store.Event} (h : Scoped name events s)
    {event : Store.Event} (hkept : event ≠ .request (.drop name)) :
    Scoped name (events ++ [event]) s := by
  intro entry hentry hstart
  obtain ⟨i, hi, hdeclared⟩ := h entry hentry hstart
  exact ⟨i, hi, hdeclared.concat hkept⟩

/-- A declaration on a collection adds to its own indexes, and to no others if the names are
apart. -/
theorem Scoped.declare {events : List Store.Event} (h : Scoped name events s) {other : String}
    {i : Index} (hapart : other ≠ name → NamesApart name other) :
    Scoped name (events ++ [.request (.ensureIndex other i)])
      { s with indexTree := s.indexTree.insert (indexStart other ++ i.name.toList) i.toJson } := by
  intro entry hentry hstart
  rcases Tree.mem_put hentry with rfl | hold
  · have hother : indexStart other <+: indexStart other ++ i.name.toList := List.prefix_append _ _
    have heq : other = name := Decidable.of_not_not fun hne =>
      (hapart hne).exclusive (Ne.symm hne) hstart hother
    refine ⟨i, rfl, events, [], ?_, List.not_mem_nil⟩
    rw [heq]
  · exact h.concat (by simp) entry hold hstart

/-- After a drop nothing is found under the name, and nothing new under other names. -/
theorem Scoped.drop {events : List Store.Event} (h : Scoped name events s) (other : String) :
    Scoped name (events ++ [.request (.drop other)]) (s.drop other) := by
  intro entry hentry hstart
  obtain ⟨hold, hleft⟩ := List.mem_filter.mp hentry
  by_cases heq : other = name
  · rw [heq, List.isPrefixOf_iff_prefix.mpr hstart] at hleft
    cases hleft
  · exact h.concat (by simpa using heq) entry hold hstart

theorem Scoped.answer {events : List Store.Event} (h : Scoped name events s)
    {request : Store.Request}
    (hapart : ∀ other i, request = .ensureIndex other i → other ≠ name → NamesApart name other)
    (hanswer : ((Store.persistent s).answer request).2 = .persistent s') :
    Scoped name (events ++ [.request request]) s' := by
  by_cases hdrop : request = .drop name
  · subst hdrop
    cases hanswer
    exact h.drop name
  have hkept : Store.Event.request request ≠ .request (.drop name) := by simpa using hdrop
  rcases Store.Kind.persistent.answer_cases hanswer with rfl |
      ⟨ids, ids', other, docs, rfl, hinsert⟩ | ⟨other, i, rfl, hensure⟩ |
      ⟨other, rfl, rfl⟩
  · exact h.concat hkept
  · obtain rfl := keep_of_insert hinsert
    exact h.concat hkept
  · rcases eq_or_insert_of_ensureIndex hensure with rfl | ⟨-, -, rfl⟩
    · exact h.concat hkept
    · exact h.declare (hapart other i rfl)
  · exact h.drop other

/-- The indexes of a collection are read as they were declared on it. -/
theorem Scoped.indexes {events : List Store.Event} (h : Scoped name events s) :
    ∃ is, s.indexes name = .ok is ∧ ∀ i ∈ is, Store.DeclaredIn events name i := by
  have hread : ∀ record ∈ s.indexTree.scan (indexStart name),
      ∃ i, decodeIndex record = .ok i ∧ Store.DeclaredIn events name i := by
    intro record hrecord
    obtain ⟨entry, hentry, rfl⟩ := List.mem_map.mp hrecord
    obtain ⟨hmem, hstart⟩ := List.mem_filter.mp hentry
    obtain ⟨i, hi, hdeclared⟩ := h entry hmem (List.isPrefixOf_iff_prefix.mp hstart)
    exact ⟨i, hi ▸ decodeIndex_toJson i, hdeclared⟩
  obtain ⟨is, his, hrelated⟩ := exists_mapM_forall₂ hread
  have hback : List.Forall₂ (fun i record => Store.DeclaredIn events name i ∧
      decodeIndex record = .ok i) is (s.indexTree.scan (indexStart name)) :=
    .flip (hrelated.imp fun _ _ h => h.symm)
  exact ⟨is, his, ((List.forall₂_and_left is _).mp hback).1⟩

/-- In every state that comes from an empty store, a request about another collection leaves the
documents of a collection alone, and its indexes too if the names are apart. And if the names
of all collections on which indexes were declared are apart from its own, the collection lists
only indexes that were declared on it since it was last dropped. -/
theorem isolated (events : List Store.Event) :
    ∃ s : PersistentStore, ((Store.persistent .empty).follow events).2 = .persistent s ∧
      ∀ name : String,
        (∀ request : Store.Request, request.collection ≠ name →
          ∃ s', ((Store.persistent s).answer request).2 = .persistent s' ∧
            s'.documents name = s.documents name ∧
            (NamesApart name request.collection → s'.indexes name = s.indexes name)) ∧
        ((∀ other i, .request (.ensureIndex other i) ∈ events → other ≠ name →
            NamesApart name other) →
          ∃ is, s.indexes name = .ok is ∧ ∀ i ∈ is, Store.DeclaredIn events name i) := by
  have hempty : PersistentStore.empty.data.Distinct := List.nodup_nil
  obtain ⟨s, hs, hdistinct⟩ := exists_follow (fun _ s => s.data.Distinct) events
    (fun _ _ _ _ _ h hanswer => distinct_answer h hanswer) (fun _ _ _ h => h) [] hempty
  refine ⟨s, hs, ?_⟩
  intro name
  refine ⟨?requests, ?listed⟩
  case requests =>
    intro request hne
    obtain ⟨s', hs', -⟩ := Store.Kind.persistent.exists_answer s request
    exact ⟨s', hs', documents_answer_of_ne hdistinct hne hs',
      fun hapart => indexes_answer_of_apart hne hapart hs'⟩
  case listed =>
    intro hnames
    have hempty : Scoped name [] .empty := fun entry hentry => absurd hentry List.not_mem_nil
    obtain ⟨after, hafter, hscoped⟩ := exists_follow (Scoped name) events
      (fun _ _ _ _ hmem h hanswer => h.answer
        (fun other i heq => hnames other i (heq ▸ hmem)) hanswer)
      (fun _ _ _ h => h.concat (by simp)) [] hempty
    rw [hs] at hafter
    cases hafter
    exact hscoped.indexes

end Runs

section Samples

/-- One index each on two collections, of which the name of one starts that of the other. -/
def sampleDeclarations : List Store.Event :=
  [.request (.ensureIndex "a" ⟨["x"], true⟩), .request (.ensureIndex "ab" ⟨["y"], false⟩)]

theorem isolated_sample :
    NamesApart "a" "ab" ∧ ∃ s s' : PersistentStore,
      ((Store.persistent .empty).follow sampleDeclarations).2 = .persistent s ∧
        ((Store.persistent s).answer (.drop "ab")).2 = .persistent s' ∧
        s.indexes "a" = .ok [⟨["x"], true⟩] ∧ s'.indexes "a" = .ok [⟨["x"], true⟩] := by
  have hapart : NamesApart "a" "ab" := namesApart_of_not_mem (by decide) (by decide)
  obtain ⟨s, hs, hisolated⟩ := isolated sampleDeclarations
  obtain ⟨s', hs', -, hkept⟩ := (hisolated "a").1 (.drop "ab") (by decide)
  have hindexes : s.indexes "a" = .ok [⟨["x"], true⟩] := by
    cases hs
    rfl
  exact ⟨hapart, s, s', hs, hs', hindexes, (hkept hapart).trans hindexes⟩

/-- An index declared on a collection whose name goes on with a zero character is found under
the shorter name, although nothing was done to that collection. Dropping the collection of the
shorter name takes the index from the longer one. -/
theorem index_found_elsewhere :
    let unique : Index := ⟨["x"], true⟩
    let s := ((Store.persistent .empty).follow [.request (.ensureIndex "a\x00b" unique)]).2
    empty.indexes "a" = .ok [] ∧ s.indexes "a" = .ok [unique] ∧
      s.indexes "a\x00b" = .ok [unique] ∧ (s.drop "a").indexes "a\x00b" = .ok [] := by
  intro unique s
  exact ⟨rfl, rfl, rfl, rfl⟩

end Samples

end PersistentStore

end QuerySets
