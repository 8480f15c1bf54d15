import Mathlib.Algebra.GroupWithZero.Nat
import QuerySets.Proofs.Fields
import QuerySets.Proofs.Stage.Accumulator
import QuerySets.Proofs.Stage.Sum
import QuerySets.Proofs.Traversal

/-!
What grouping makes of documents. The keys of the groups are the distinct ones among the keys
of all documents, and a document belongs to the first group whose key is equal to its own by
size. So every document has one group, where the members stand in their order. Only where
floats are compared with rounded numbers can documents with equal keys be in different groups.
-/

namespace QuerySets.Group

open Value (firstSeen)
open Accumulator (distinct)

/-- The key of a document. -/
def keyOf (g : Group) (d : Document) : Value := Expression.evaluate d g.id

/-- The number of the group of a document. -/
def groupOf (g : Group) (docs : List Document) (d : Document) : Nat :=
  firstSeen (distinct (docs.map g.keyOf)) (g.keyOf d)

section Buckets

theorem firstSeen_cons (v : Value) (rest : List Value) (w : Value) :
    firstSeen (v :: rest) w = if v.looseEq w then 0 else firstSeen rest w + 1 := by
  rw [firstSeen, List.findIdx_cons]
  cases v.looseEq w <;> rfl

theorem keys_addTo (key : Value) (d : Document) (buckets : List Bucket) :
    (addTo key d buckets).map (·.key) =
      if (buckets.map (·.key)).any (·.looseEq key) then buckets.map (·.key)
      else buckets.map (·.key) ++ [key] := by
  induction buckets with
  | nil => rfl
  | cons b rest ih =>
    by_cases hequal : b.key.looseEq key = true
    · simp [addTo, hequal]
    · simp only [addTo, hequal, Bool.false_eq_true, if_false, List.map_cons, ih, List.any_cons,
        Bool.false_or]
      split <;> rfl

/-- The document joins the first bucket with a key that is equal to its own, and all other
members stay where they are. -/
theorem members_addTo {key : Value} {d : Document} {buckets : List Bucket} {n : Nat} {b : Bucket}
    (h : (addTo key d buckets)[n]? = some b) :
    b.members = ((buckets[n]?).map (·.members)).getD [] ++
      if firstSeen (buckets.map (·.key)) key == n then [d] else [] := by
  induction buckets generalizing n with
  | nil =>
    cases n with
    | zero =>
      cases h
      rfl
    | succ n => cases h
  | cons first rest ih =>
    rw [List.map_cons, firstSeen_cons]
    by_cases hequal : first.key.looseEq key = true
    · rw [addTo, if_pos hequal] at h
      rw [if_pos hequal]
      cases n with
      | zero =>
        cases h
        rfl
      | succ n =>
        rw [List.getElem?_cons_succ] at h ⊢
        rw [h]
        exact (List.append_nil _).symm
    · rw [addTo, if_neg hequal] at h
      rw [if_neg hequal]
      cases n with
      | zero =>
        cases h
        exact (List.append_nil _).symm
      | succ n =>
        rw [List.getElem?_cons_succ] at h ⊢
        rw [ih h]
        simp

theorem sum_length_addTo (key : Value) (d : Document) (buckets : List Bucket) :
    ((addTo key d buckets).map (·.members.length)).sum =
      (buckets.map (·.members.length)).sum + 1 := by
  induction buckets with
  | nil => rfl
  | cons b rest ih =>
    rw [addTo]
    split
    · simp only [List.map_cons, List.sum_cons, List.length_append, List.length_singleton]
      omega
    · simp only [List.map_cons, List.sum_cons, ih]
      omega

variable (g : Group) (docs : List Document)

theorem buckets_concat (d : Document) :
    g.buckets (docs ++ [d]) = addTo (g.keyOf d) d (g.buckets docs) := by
  rw [buckets, List.foldl_append]
  rfl

/-- The keys of the groups are the distinct keys of the documents. -/
theorem keys_buckets : (g.buckets docs).map (·.key) = distinct (docs.map g.keyOf) := by
  induction docs using List.reverseRecOn with
  | nil => rfl
  | append_singleton docs d ih =>
    rw [buckets_concat, keys_addTo, ih, List.map_append, List.map_singleton,
      Accumulator.distinct_concat]

theorem length_run : (g.run docs).length = (distinct (docs.map g.keyOf)).length := by
  rw [run, List.length_map, ← keys_buckets, List.length_map]

theorem sum_length_buckets : ((g.buckets docs).map (·.members.length)).sum = docs.length := by
  induction docs using List.reverseRecOn with
  | nil => rfl
  | append_singleton docs d ih => rw [buckets_concat, sum_length_addTo, ih, List.length_append,
      List.length_singleton]

variable {g docs}

theorem groupOf_lt {d : Document} (h : d ∈ docs) : g.groupOf docs d < (g.run docs).length := by
  rw [length_run]
  exact Accumulator.firstSeen_distinct_lt (List.mem_map_of_mem h)

theorem groupOf_concat (last : Document) {d : Document} (h : d ∈ docs) :
    g.groupOf (docs ++ [last]) d = g.groupOf docs d := by
  rw [groupOf, List.map_append]
  exact Accumulator.firstSeen_distinct_concat _ (List.mem_map_of_mem h)

theorem groupOf_last (last : Document) :
    g.groupOf (docs ++ [last]) last = g.groupOf docs last := by
  rw [groupOf, List.map_append]
  exact Accumulator.firstSeen_distinct_last _ _

/-- The members of a bucket are the documents of its group in their order. -/
theorem members_buckets {n : Nat} {b : Bucket} (h : (g.buckets docs)[n]? = some b) :
    b.members = docs.filter (g.groupOf docs · == n) := by
  induction docs using List.reverseRecOn generalizing b with
  | nil => cases h
  | append_singleton docs last ih =>
    have hsame : docs.filter (g.groupOf (docs ++ [last]) · == n) =
        docs.filter (g.groupOf docs · == n) := by
      apply List.filter_congr
      intro d hd
      rw [groupOf_concat last hd]
    have hearlier : ((g.buckets docs)[n]?.map (·.members)).getD [] =
        docs.filter (g.groupOf docs · == n) := by
      cases hbucket : (g.buckets docs)[n]? with
      | some earlier => exact ih hbucket
      | none =>
        symm
        apply List.filter_eq_nil_iff.mpr
        intro d hd heq
        have hlt := groupOf_lt (g := g) hd
        rw [beq_iff_eq.mp heq, run, List.length_map] at hlt
        have hge := List.getElem?_eq_none_iff.mp hbucket
        omega
    rw [buckets_concat] at h
    rw [members_addTo h, hearlier, List.filter_append, hsame, List.filter_singleton, groupOf_last,
      keys_buckets, Bool.cond_eq_ite]
    rfl

/-- A group has the key of its first member. -/
theorem exists_first {n : Nat} {b : Bucket} (h : (g.buckets docs)[n]? = some b) :
    ∃ first, b.members.head? = some first ∧ b.key = g.keyOf first := by
  have hkey : (distinct (docs.map g.keyOf))[n]? = some b.key := by
    rw [← keys_buckets, List.getElem?_map, h]
    rfl
  have hfirst := Accumulator.find?_distinct hkey
  rw [List.find?_map, Option.map_eq_some_iff] at hfirst
  obtain ⟨first, hfind, heq⟩ := hfirst
  refine ⟨first, ?_, heq.symm⟩
  rw [members_buckets h, List.head?_filter]
  exact hfind

/-- Groups stand in the order of their first members. -/
theorem findIdx_groupOf_lt {m n : Nat} (hmn : m < n) (hn : n < (g.run docs).length) :
    docs.findIdx (g.groupOf docs · == m) < docs.findIdx (g.groupOf docs · == n) := by
  rw [length_run] at hn
  have hlt := Accumulator.findIdx_distinct_lt hmn hn
  rw [List.findIdx_map, List.findIdx_map] at hlt
  exact hlt

/-- Without floats in the keys, documents are grouped by equality. -/
theorem groupOf_eq_iff (h : ∀ d ∈ docs, (g.keyOf d).FloatFree) {d e : Document} (hd : d ∈ docs)
    (he : e ∈ docs) :
    g.groupOf docs d = g.groupOf docs e ↔ (g.keyOf d).looseEq (g.keyOf e) = true := by
  have hall : ∀ v ∈ docs.map g.keyOf, v.FloatFree := List.forall_mem_map.mpr h
  have hfree : ∀ v ∈ distinct (docs.map g.keyOf), v.FloatFree :=
    fun v hv => hall v ((Accumulator.mem_distinct_iff hall).mp hv)
  have hown : ∀ c ∈ docs, (distinct (docs.map g.keyOf))[g.groupOf docs c]? = some (g.keyOf c) := by
    intro c hc
    have hmem : g.keyOf c ∈ docs.map g.keyOf := List.mem_map_of_mem hc
    obtain ⟨k, hk, hequal⟩ := Value.exists_firstSeen (Accumulator.firstSeen_distinct_lt hmem)
    have hfreek : k.FloatFree := hfree k (List.mem_of_getElem? hk)
    rw [groupOf, hk, (Value.looseEq_iff_eq hfreek (h c hc)).mp hequal]
  rw [Value.looseEq_iff_eq (h d hd) (h e he)]
  constructor
  · intro hgroup
    have hd := hown d hd
    rw [hgroup, hown e he] at hd
    exact (Option.some.inj hd).symm
  · intro hkey
    rw [groupOf, groupOf, hkey]

/-- A document whose key is new opens a bucket at the end. -/
theorem addTo_of_new {key : Value} {buckets : List Bucket}
    (h : ∀ b ∈ buckets, b.key.looseEq key = false) (d : Document) :
    addTo key d buckets = buckets ++ [⟨key, [d]⟩] := by
  induction buckets with
  | nil => rfl
  | cons b rest ih =>
    obtain ⟨hfirst, hrest⟩ := List.forall_mem_cons.mp h
    rw [addTo, hfirst, ih hrest]
    rfl

theorem addTo_last {key : Value} {buckets : List Bucket}
    (h : ∀ b ∈ buckets, b.key.looseEq key = false) (members : List Document) (d : Document) :
    addTo key d (buckets ++ [⟨key, members⟩]) = buckets ++ [⟨key, members ++ [d]⟩] := by
  induction buckets with
  | nil =>
    rw [List.nil_append, addTo, if_pos (Value.looseEq_self key)]
    rfl
  | cons b rest ih =>
    obtain ⟨hfirst, hrest⟩ := List.forall_mem_cons.mp h
    rw [List.cons_append, addTo, hfirst, ih hrest]
    rfl

/-- Documents of one key that come one after the other make one bucket. -/
theorem foldl_addTo_run {key : Value} {buckets : List Bucket} {more : List Document}
    (h : ∀ b ∈ buckets, b.key.looseEq key = false) (hmore : ∀ d ∈ more, g.keyOf d = key)
    (members : List Document) :
    more.foldl (fun buckets d => addTo (g.keyOf d) d buckets) (buckets ++ [⟨key, members⟩]) =
      buckets ++ [⟨key, members ++ more⟩] := by
  induction more generalizing members with
  | nil => rw [List.foldl_nil, List.append_nil]
  | cons d rest ih =>
    obtain ⟨hd, hrest⟩ := List.forall_mem_cons.mp hmore
    rw [List.foldl_cons, hd, addTo_last h, ih hrest, List.append_assoc, List.singleton_append]

/-- Where the documents come in runs whose keys are apart, each run is a bucket. -/
theorem buckets_flatMap {α : Type} {as : List α} {run : α → List Document} {key : α → Value}
    (hne : ∀ a ∈ as, run a ≠ []) (hkey : ∀ a ∈ as, ∀ d ∈ run a, g.keyOf d = key a)
    (hapart : as.Pairwise fun a b => (key a).looseEq (key b) = false) :
    g.buckets (as.flatMap run) = as.map fun a => ⟨key a, run a⟩ := by
  induction as using List.reverseRecOn with
  | nil => rfl
  | append_singleton as last ih =>
    obtain ⟨hne, hlast⟩ := List.forall_mem_append.mp hne
    obtain ⟨hkey, hlastKey⟩ := List.forall_mem_append.mp hkey
    obtain ⟨hapart, -, hnew⟩ := List.pairwise_append.mp hapart
    have hkeys := hlastKey last List.mem_cons_self
    obtain ⟨first, rest, hrun⟩ := List.exists_cons_of_ne_nil (hlast last List.mem_cons_self)
    rw [hrun] at hkeys
    obtain ⟨hfirst, hrest⟩ := List.forall_mem_cons.mp hkeys
    have hbuckets : ∀ b ∈ g.buckets (as.flatMap run), b.key.looseEq (key last) = false := by
      rw [ih hne hkey hapart]
      exact List.forall_mem_map.mpr fun a ha => hnew a ha last List.mem_cons_self
    have hall : g.buckets (as.flatMap run ++ first :: rest) =
        g.buckets (as.flatMap run) ++ [⟨key last, first :: rest⟩] := by
      rw [buckets, List.foldl_append, ← buckets, List.foldl_cons]
      change rest.foldl (fun buckets d => addTo (g.keyOf d) d buckets)
        (addTo (g.keyOf first) _ _) = _
      rw [hfirst, addTo_of_new hbuckets, foldl_addTo_run hbuckets hrest, List.singleton_append]
    rw [List.flatMap_append, List.flatMap_singleton, hrun, hall, ih hne hkey hapart,
      List.map_append, List.map_singleton, hrun]

end Buckets

section Documents

variable {g : Group} {specification : Document}

/-- The fields of a group with the identifier have different names. -/
def Named (g : Group) : Prop := ("_id" :: g.fields.map (·.name)).Nodup

theorem entries_document (h : g.Named) (b : Bucket) :
    (g.document b).entries =
      ("_id", b.key) :: g.fields.map fun f => (f.name, f.value b.members) := by
  have hpairs : g.document b = (g.fields.map fun f => (f.name, f.value b.members)).foldl
      (fun d pair => d.insert pair.1 pair.2) (Fields.empty.insert "_id" b.key) := by
    rw [document, List.foldl_map]
  have hnames : ((Fields.empty.insert "_id" b.key).keys ++
      (g.fields.map fun f => (f.name, f.value b.members)).map (·.1)).Nodup := by
    rw [List.map_map]
    exact h
  rw [hpairs, Fields.insertAll_of_nodup _ hnames]
  rfl

theorem distinct_document (h : g.Named) (b : Bucket) : (g.document b).Distinct := by
  have hkeys : (g.document b).keys = "_id" :: g.fields.map (·.name) := by
    rw [Fields.keys, entries_document h, List.map_cons, List.map_map]
    rfl
  rw [Fields.Distinct, hkeys]
  exact h

theorem get?_document_id (h : g.Named) (b : Bucket) : (g.document b).get? "_id" = some b.key := by
  rw [← (distinct_document h b).mem_iff, entries_document h]
  exact List.mem_cons_self

theorem get?_document_field (h : g.Named) (b : Bucket) {f : Field} (hf : f ∈ g.fields) :
    (g.document b).get? f.name = some (f.value b.members) := by
  rw [← (distinct_document h b).mem_iff, entries_document h]
  exact List.mem_cons_of_mem _ (List.mem_map.mpr ⟨f, hf, rfl⟩)

theorem field_eq_ok {name : String} {v : Value} {f : Field} (h : field name v = .ok f) :
    ∃ operator, v = .document ⟨[(operator, f.expression)]⟩ ∧
      Accumulator.ofName? operator = some f.accumulator ∧ f.name = name := by
  unfold field at h
  split at h
  next => cases h
  next operator expression hsingle =>
    obtain ⟨d, hdocument, hentry⟩ := Option.bind_eq_some_iff.mp hsingle
    have hv : v = .document ⟨[(operator, expression)]⟩ := by
      cases v with
      | document other =>
        cases hdocument
        obtain ⟨entries⟩ := d
        match entries, hentry with
        | [entry], hentry => cases hentry; rfl
      | _ => cases hdocument
    split at h
    next => cases h
    next accumulator hname =>
      cases h
      exact ⟨operator, hv, hname, rfl⟩

/-- A group is compiled from its key and from all further entries in their order. -/
theorem compile_eq_ok (h : compile specification = .ok g) :
    specification.get? "_id" = some g.id ∧
      List.Forall₂ (fun entry f => field entry.1 entry.2 = .ok f)
        (specification.entries.filter (·.1 != "_id")) g.fields := by
  unfold compile at h
  cases hid : specification.get? "_id" with
  | none => rw [hid] at h; cases h
  | some id =>
    simp only [hid, bind, Except.bind] at h
    cases hfields : (specification.entries.filter (·.1 != "_id")).mapM
        (fun entry => field entry.1 entry.2) with
    | error e => rw [hfields] at h; cases h
    | ok fields =>
      rw [hfields] at h
      cases h
      exact ⟨rfl, mapM_eq_ok_iff.mp hfields⟩

theorem names_of_fields {entries : List (String × Value)} {fields : List Field}
    (h : List.Forall₂ (fun entry f => field entry.1 entry.2 = .ok f) entries fields) :
    fields.map (·.name) = entries.map (·.1) := by
  induction h with
  | nil => rfl
  | cons hfield _ ih =>
    obtain ⟨_, -, -, hname⟩ := field_eq_ok hfield
    rw [List.map_cons, List.map_cons, ih, hname]

theorem named_of_compile (hdistinct : specification.Distinct) (h : compile specification = .ok g) :
    g.Named := by
  rw [Named, names_of_fields (compile_eq_ok h).2]
  refine List.nodup_cons.mpr ⟨?_, hdistinct.sublist (List.filter_sublist.map _)⟩
  intro hmem
  obtain ⟨entry, hentry, hid⟩ := List.mem_map.mp hmem
  have hne := (List.mem_filter.mp hentry).2
  rw [hid] at hne
  exact absurd hne (by decide)

/-- An entry of the specification that names an accumulator is a field of the group. -/
theorem mem_fields_of_get? (h : compile specification = .ok g) {name operator : String}
    {x : Value} {a : Accumulator} (hname : name ≠ "_id")
    (hget : specification.get? name = some (.document ⟨[(operator, x)]⟩))
    (ha : Accumulator.ofName? operator = some a) : (⟨name, a, x⟩ : Field) ∈ g.fields := by
  have hmem : (name, Value.document ⟨[(operator, x)]⟩) ∈
      specification.entries.filter (·.1 != "_id") :=
    List.mem_filter.mpr ⟨Association.mem_of_lookup hget, by simpa using hname⟩
  obtain ⟨f, hf, hfield⟩ := exists_related (compile_eq_ok h).2 hmem
  obtain ⟨operator', hv, ha', rfl⟩ := field_eq_ok hfield
  cases hv
  obtain rfl : a = f.accumulator := Option.some.inj (ha.symm.trans ha')
  exact hf

theorem wholes_ones (members : List Document) :
    Accumulator.wholes (members.map fun d => Expression.evaluate d (.int 1)) =
      List.replicate members.length 1 := by
  induction members with
  | nil => rfl
  | cons d rest ih =>
    rw [List.length_cons, List.replicate_succ, ← ih]
    rfl

/-- The sum of ones is their number, as long as it fits. -/
theorem exists_total_ones (members : List Document) (h : members.length < 2 ^ 63) :
    ∃ count : Int64, Accumulator.total (members.map fun d => Expression.evaluate d (.int 1)) =
      .int count ∧ count.toInt = members.length := by
  have hwhole : Accumulator.Whole (members.map fun d => Expression.evaluate d (.int 1)) := by
    intro v hv _
    obtain ⟨d, -, rfl⟩ := List.mem_map.mp hv
    exact ⟨1, rfl⟩
  have hlosses : Saturating.losses (List.replicate members.length 1) = 0 := by
    apply Saturating.losses_of_nonneg
    intro n hn
    rw [List.eq_of_mem_replicate hn]
    decide
  obtain ⟨count, hsum, hcount⟩ := Accumulator.exists_sum hwhole
  refine ⟨count, hsum, ?_⟩
  rw [hcount, wholes_ones, Saturating.running_of_one_way (by decide) (Or.inl hlosses),
    Int.zero_add, List.sum_replicate_int, Int.mul_one, Saturating.nearest_of_fits]
  exact ⟨by omega, by omega⟩

end Documents

/-- What the document of a group tells of its members: the key of the first one, and under each
further field what its values accumulate to, for `$push` all of them but nulls. -/
structure Summarises (g : Group) (specification : Document) (members : List Document)
    (out : Document) : Prop where
  id : ∃ first, members.head? = some first ∧
    out.get? "_id" = some (Expression.evaluate first g.id)
  field : ∀ f ∈ g.fields, out.get? f.name = some (f.value members)
  push : ∀ name x, name ≠ "_id" →
    specification.get? name = some (.document ⟨[("$push", x)]⟩) →
      out.get? name = some (.array
        ((members.map fun d => Expression.evaluate d x).filter (!·.isNull)))

theorem summarises {g : Group} {specification : Document} (hdistinct : specification.Distinct)
    (h : compile specification = .ok g) {docs : List Document} {n : Nat} {out : Document}
    (hout : (g.run docs)[n]? = some out) :
    Summarises g specification (docs.filter (g.groupOf docs · == n)) out := by
  rw [run, List.getElem?_map, Option.map_eq_some_iff] at hout
  obtain ⟨b, hb, rfl⟩ := hout
  have hnamed := named_of_compile hdistinct h
  rw [← members_buckets hb]
  refine ⟨?_, fun f hf => get?_document_field hnamed b hf, ?_⟩
  · obtain ⟨first, hfirst, hkey⟩ := exists_first hb
    refine ⟨first, hfirst, ?_⟩
    rw [get?_document_id hnamed, hkey]
    rfl
  · intro name x hname hget
    have hf := mem_fields_of_get? h hname hget rfl
    exact get?_document_field hnamed b hf

/-- The groups' keys are apart, each one from all later ones. -/
theorem pairwise_run {g : Group} (hnamed : g.Named) (docs : List Document) :
    (g.run docs).Pairwise fun out later => ∀ v w, out.get? "_id" = some v →
      later.get? "_id" = some w → v.looseEq w = false := by
  have hkeys := Accumulator.pairwise_distinct_apart (docs.map g.keyOf)
  rw [← keys_buckets, List.pairwise_map] at hkeys
  rw [run, List.pairwise_map]
  refine hkeys.imp ?_
  intro b c hapart v w hv hw
  rw [get?_document_id hnamed] at hv hw
  cases hv
  cases hw
  exact hapart

theorem exists_counts_of_field {g : Group} (hnamed : g.Named) {name : String}
    (hf : (⟨name, .sum, .int 1⟩ : Field) ∈ g.fields) (buckets : List Bucket)
    (hbound : (buckets.map (·.members.length)).sum < 2 ^ 63) :
    ∃ counts : List Int64,
      (buckets.map g.document).map (·.get? name) = counts.map (fun n => some (.int n)) ∧
        (counts.map (·.toInt)).sum = (buckets.map (·.members.length)).sum := by
  induction buckets with
  | nil => exact ⟨[], rfl, rfl⟩
  | cons b rest ih =>
    rw [List.map_cons, List.sum_cons] at hbound
    obtain ⟨counts, hcounts, hsum⟩ := ih (by omega)
    obtain ⟨count, htotal, hcount⟩ := exists_total_ones b.members (by omega)
    have hfirst : (g.document b).get? name = some (.int count) :=
      (get?_document_field hnamed b hf).trans (congrArg some htotal)
    refine ⟨count :: counts, ?_, ?_⟩
    · rw [List.map_cons, List.map_cons, List.map_cons, hcounts, hfirst]
    · rw [List.map_cons, List.sum_cons, hsum, hcount, List.map_cons, List.sum_cons]
      omega

/-- Ones that are summed up count the members, and so all groups together the documents. -/
theorem exists_counts {g : Group} {specification : Document} (hdistinct : specification.Distinct)
    (h : compile specification = .ok g) {docs : List Document} (hsize : docs.length < 2 ^ 63)
    {name : String} (hname : name ≠ "_id")
    (hget : specification.get? name = some (.document ⟨[("$sum", .int 1)]⟩)) :
    ∃ counts : List Int64,
      (g.run docs).map (·.get? name) = counts.map (fun n => some (.int n)) ∧
        (counts.map (·.toInt)).sum = docs.length := by
  have hf := mem_fields_of_get? h hname hget rfl
  have hall := sum_length_buckets g docs
  obtain ⟨counts, hcounts, hsum⟩ := exists_counts_of_field (named_of_compile hdistinct h) hf
    (g.buckets docs) (by omega)
  exact ⟨counts, hcounts, by rw [hsum, hall]⟩

/-- Every document has one group. The groups stand in the order of their first members, whose
keys they have, and the members in the order in which they came; no group has the key of a later
one, and their summed ones count all documents. Without floats in the keys, documents with equal
keys are in the same group. -/
theorem grouped (specification : Document) (hdistinct : specification.Distinct) (g : Group)
    (h : compile specification = .ok g) (docs : List Document) :
    specification.get? "_id" = some g.id ∧
    ∃ group : Document → Nat,
      (∀ d ∈ docs, group d < (g.run docs).length) ∧
      (g.buckets docs).map (·.members) =
        (List.range (g.run docs).length).map (fun n => docs.filter (group · == n)) ∧
      (∀ n out, (g.run docs)[n]? = some out →
        Summarises g specification (docs.filter (group · == n)) out) ∧
      (∀ m n, m < n → n < (g.run docs).length →
        docs.findIdx (group · == m) < docs.findIdx (group · == n)) ∧
      (g.run docs).Pairwise (fun out later => ∀ v w, out.get? "_id" = some v →
        later.get? "_id" = some w → v.looseEq w = false) ∧
      (docs.length < 2 ^ 63 → ∀ name, name ≠ "_id" →
        specification.get? name = some (.document ⟨[("$sum", .int 1)]⟩) →
          ∃ counts : List Int64,
            (g.run docs).map (·.get? name) = counts.map (fun n => some (.int n)) ∧
              (counts.map (·.toInt)).sum = docs.length) ∧
      ((∀ d ∈ docs, (Expression.evaluate d g.id).FloatFree) → ∀ d ∈ docs, ∀ e ∈ docs,
        (group d = group e ↔
          (Expression.evaluate d g.id).looseEq (Expression.evaluate e g.id) = true)) := by
  refine ⟨(compile_eq_ok h).1, g.groupOf docs, fun d hd => groupOf_lt hd, ?_,
    fun n out hout => summarises hdistinct h hout, fun m n hmn hn => findIdx_groupOf_lt hmn hn,
    pairwise_run (named_of_compile hdistinct h) docs,
    fun hsize name hname hget => exists_counts hdistinct h hsize hname hget,
    fun hfree d hd e he => groupOf_eq_iff hfree hd he⟩
  apply List.ext_getElem
  · rw [List.length_map, List.length_map, List.length_range, run, List.length_map]
  · intro n hn _
    rw [List.length_map] at hn
    rw [List.getElem_map, List.getElem_map, List.getElem_range]
    exact members_buckets (List.getElem?_eq_getElem hn)

/-- A report on each state: its stations' winds and their number. -/
def windReport : Document :=
  ⟨[("_id", .string "$state"), ("winds", .document ⟨[("$push", .string "$wind")]⟩),
    ("stations", .document ⟨[("$sum", .int 1)]⟩)]⟩

/-- What the report is compiled to. -/
def byState : Group :=
  ⟨.string "$state", [⟨"winds", .push, .string "$wind"⟩, ⟨"stations", .sum, .int 1⟩]⟩

def reports : List Document :=
  [⟨[("state", .string "FL"), ("wind", .int 12)]⟩, ⟨[("state", .string "CA")]⟩,
    ⟨[("state", .string "FL"), ("wind", .null)]⟩, ⟨[("state", .string "CA"), ("wind", .int 20)]⟩]

theorem grouped_reports :
    windReport.Distinct ∧ compile windReport = .ok byState ∧
      (∀ d ∈ reports, (Expression.evaluate d byState.id).FloatFree) ∧
      byState.run reports =
        [⟨[("_id", .string "FL"), ("winds", .array [.int 12]), ("stations", .int 2)]⟩,
          ⟨[("_id", .string "CA"), ("winds", .array [.int 20]), ("stations", .int 2)]⟩] ∧
      ∃ group : Document → Nat, ∀ d ∈ reports, ∀ e ∈ reports,
        (group d = group e ↔
          (Expression.evaluate d byState.id).looseEq (Expression.evaluate e byState.id)) := by
  have hdistinct : windReport.Distinct := by
    unfold Fields.Distinct
    decide
  have hcompile : compile windReport = .ok byState := rfl
  have hfree : ∀ d ∈ reports, (Expression.evaluate d byState.id).FloatFree := by
    decide +kernel
  obtain ⟨-, group, -, -, -, -, -, -, hsame⟩ :=
    grouped windReport hdistinct byState hcompile reports
  exact ⟨hdistinct, hcompile, hfree, rfl, group, hsame hfree⟩

end QuerySets.Group
