import QuerySets.Pattern.Basic

/-!
How large the automaton of a pattern is. A set of characters becomes one path for each row of
ranges that the bytes of its members run through, and paths share the ranges that they start
with. A state takes up 32 bytes, and each branch at a state four.
-/

namespace QuerySets.Pattern

namespace CharSet

/-- A run of code points with one more at its end, or a new run. -/
def extend (runs : List (Nat × Nat)) (n : Nat) : List (Nat × Nat) :=
  match runs with
  | (first, last) :: others => if last + 1 = n then (first, n) :: others else (n, n) :: runs
  | [] => [(n, n)]

/-- The first and the last code point of each run of members. -/
def runs (a : CharSet) : List (Nat × Nat) :=
  let found := Nat.fold 0x110000 (fun n _ runs =>
    if h : n.isValidChar then
      if a.contains (Char.ofNatAux n h) then extend runs n else runs
    else runs) []
  found.reverse

/-- The last code point before the place where a run is cut: its members have as many bytes, and
each byte that follows one that changes runs through all its values. -/
def cut? (first last : Nat) : Option Nat :=
  match [0x7f, 0x7ff, 0xffff].find? fun most => first ≤ most && most < last with
  | some most => some most
  | .none =>
    if last < 0x80 then .none
    else [64, 4096, 262144].findSome? fun block =>
      if first / block = last / block then .none
      else if first % block ≠ 0 then some (first / block * block + block - 1)
      else if last % block ≠ block - 1 then some (last / block * block - 1)
      else .none

def bytesOf (n : Nat) : List UInt8 := String.utf8EncodeChar (Char.ofNat n)

/-- The rows of byte ranges of a run; a few cuts are always enough. -/
def rows : Nat → Nat × Nat → List (List (UInt8 × UInt8))
  | 0, _ => []
  | cuts + 1, (first, last) =>
    match cut? first last with
    | some most => rows cuts (first, most) ++ rows cuts (most + 1, last)
    | .none => [(bytesOf first).zip (bytesOf last)]

/-- How many ranges two rows start with in common. -/
def shared : List (UInt8 × UInt8) → List (UInt8 × UInt8) → Nat
  | a :: as, b :: bs => if a = b then shared as bs + 1 else 0
  | _, _ => 0

/-- The states of the paths for some rows, after the one for the row before. -/
def states (before : List (UInt8 × UInt8)) : List (List (UInt8 × UInt8)) → Nat
  | [] => 0
  | row :: rest => row.length - shared before row + states row rest

/-- The bytes that the automaton of a set takes up. A single character has no branches, and ASCII
characters need one state for all their branches. -/
def weight (a : CharSet) : Nat :=
  let runs := a.runs
  match runs with
  | [(first, last)] => if first = last then 32 * (bytesOf first).length else ofRuns runs
  | _ => ofRuns runs
where
  ofRuns (runs : List (Nat × Nat)) : Nat :=
    if runs.all (·.2 < 0x80) then 64 + 8 * runs.length
    else
      let rows := runs.flatMap (rows 16)
      64 + 32 * states [] rows + 4 * rows.length

/-- No set that a short pattern describes is heavier. -/
def greatestWeight : Nat := 100000

end CharSet

mutual
/-- About how many bytes the automaton for a pattern takes up, by those for its sets. -/
def measure (size : CharSet → Nat) : Pattern → Nat
  | setting => 0
  | look _ => 32
  | one set _ => size set
  | group body => body.measure size + 64
  | repetition body least none => (body.measure size) * max 1 least + 40
  | repetition body least (some most) => (body.measure size) * most + 40 * (most - least)
  | sequence parts => measureAll size parts
  | choice branches => measureAll size branches + 64

def measureAll (size : CharSet → Nat) : List Pattern → Nat
  | [] => 0
  | p :: rest => p.measure size + measureAll size rest
end

/-- Automata larger than this are refused. -/
def weightLimit : Nat := 10485760

/-- Whether the automaton is too large. The members of the sets are only looked through where
there are many sets. -/
def isTooLarge (p : Pattern) : Bool :=
  weightLimit < p.measure (fun _ => CharSet.greatestWeight) &&
    weightLimit < p.measure CharSet.weight

end QuerySets.Pattern
