import QuerySets.Association

/-!
Named fields in a fixed order. A field written again keeps its place and takes
the new content; erasing one leaves the others in order.
-/

namespace QuerySets

/-- Fields in the order in which they were first written. -/
structure Fields (α : Type) where
  entries : List (String × α)

namespace Fields

variable {α β : Type}

def empty : Fields α := ⟨[]⟩

def size (d : Fields α) : Nat := d.entries.length

def isEmpty (d : Fields α) : Bool := d.entries.isEmpty

def keys (d : Fields α) : List String := d.entries.map (·.1)

/-- The content of the first entry of the name. -/
def get? (d : Fields α) (key : String) : Option α := d.entries.lookup key

def contains (d : Fields α) (key : String) : Bool := (d.get? key).isSome

/-- Writes over the first entry of the name, or adds one at the end. -/
def put (key : String) (content : α) : List (String × α) → List (String × α)
  | [] => [(key, content)]
  | (k, old) :: rest =>
    if k = key then (k, content) :: rest else (k, old) :: put key content rest

def insert (d : Fields α) (key : String) (content : α) : Fields α :=
  ⟨put key content d.entries⟩

def erase (d : Fields α) (key : String) : Fields α :=
  ⟨d.entries.eraseP (·.1 == key)⟩

/-- The pairs written one after the other, so that the last one of a name wins. -/
def ofList (pairs : List (String × α)) : Fields α :=
  pairs.foldl (fun d pair => d.insert pair.1 pair.2) empty

/-- The field of a record that has exactly one. -/
def single? (d : Fields α) : Option (String × α) :=
  match d.entries with
  | [entry] => some entry
  | _ => none

def map (f : α → β) (d : Fields α) : Fields β :=
  ⟨d.entries.map fun entry => (entry.1, f entry.2)⟩

/-- Each name stands once. -/
def Distinct (d : Fields α) : Prop := d.keys.Nodup

theorem lookup_put (key other : String) (content : α) (entries : List (String × α)) :
    (put key content entries).lookup other =
      if key = other then some content else entries.lookup other := by
  induction entries with
  | nil => by_cases h : key = other <;> simp [put, Association.lookup_cons, h]
  | cons entry rest ih =>
    obtain ⟨k, old⟩ := entry
    by_cases hk : k = key
    · subst hk
      by_cases h : k = other <;> simp [put, Association.lookup_cons, h]
    · by_cases h : k = other
      · subst h
        simp [put, hk, Ne.symm hk]
      · simp [put, hk, Association.lookup_cons, h, ih]

theorem get?_insert (d : Fields α) (key other : String) (content : α) :
    (d.insert key content).get? other = if key = other then some content else d.get? other :=
  lookup_put key other content d.entries

theorem keys_put_of_mem {key : String} {content : α} {entries : List (String × α)}
    (h : key ∈ entries.map (·.1)) : (put key content entries).map (·.1) = entries.map (·.1) := by
  induction entries with
  | nil => simp at h
  | cons entry rest ih =>
    obtain ⟨k, old⟩ := entry
    by_cases hk : k = key
    · simp [put, hk]
    · have hrest : key ∈ rest.map (·.1) := by
        rcases List.mem_cons.mp h with heq | hmem
        · exact absurd heq.symm hk
        · exact hmem
      simp [put, hk, ih hrest]

theorem keys_put_of_notMem {key : String} {content : α} {entries : List (String × α)}
    (h : key ∉ entries.map (·.1)) :
    put key content entries = entries ++ [(key, content)] := by
  induction entries with
  | nil => rfl
  | cons entry rest ih =>
    obtain ⟨k, old⟩ := entry
    simp only [List.map_cons, List.mem_cons, not_or] at h
    simp [put, Ne.symm h.1, ih h.2]

/-- Writing keeps every name single. -/
theorem Distinct.insert {d : Fields α} (h : d.Distinct) (key : String) (content : α) :
    (d.insert key content).Distinct := by
  by_cases hk : key ∈ d.entries.map (·.1)
  · simpa [Distinct, keys, Fields.insert, keys_put_of_mem hk] using h
  · simp only [Distinct, keys, Fields.insert, keys_put_of_notMem hk, List.map_append,
      List.map_cons, List.map_nil]
    refine List.nodup_append.mpr ⟨h, by simp, ?_⟩
    intro a ha b hb
    simp only [List.mem_singleton] at hb
    exact fun hab => hk (hb ▸ hab ▸ ha)

/-- Erasing keeps every name single. -/
theorem Distinct.erase {d : Fields α} (h : d.Distinct) (key : String) :
    (d.erase key).Distinct :=
  List.Nodup.sublist ((List.eraseP_sublist).map _) h

end Fields

end QuerySets
