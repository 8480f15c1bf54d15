import QuerySets.Pattern.Escape

/-!
Sets of characters in brackets. Sets may be nested, and joined by `&&` for what
is in both, `--` for what is only in the first, and `~~` for what is in one.
-/

namespace QuerySets.Pattern

open Text

namespace Bracket

inductive Join
  | inter
  | diff
  | symmDiff

def Join.apply : Join → CharSet → CharSet → CharSet
  | inter => CharSet.inter
  | diff => CharSet.diff
  | symmDiff => CharSet.symmDiff

/-- A set with the number of brackets and unions that lie inside of each other in it. -/
structure Part where
  set : CharSet
  nesting : Nat

/-- The union of the parts that stand side by side. -/
def union : List Part → Part
  | [] => ⟨CharSet.none, 0⟩
  | [part] => part
  | parts =>
    ⟨parts.foldl (fun set part => set.union part.set) CharSet.none,
      parts.foldl (fun depth part => max depth part.nesting) 0 + 1⟩

/-- A set whose other side is still to come. -/
structure Pending where
  left : Part
  join : Join

/-- Joins a set to the one that waits for it; each side is folded by itself. -/
def settle (flags : Flags) (pending : Option Pending) (right : Part) : Part :=
  match pending with
  | none => right
  | some ⟨left, join⟩ =>
    ⟨join.apply (left.set.folded flags.folding) (right.set.folded flags.folding),
      max left.nesting right.nesting + 1⟩

/-- A character of a set; without full character sets only ASCII ones are allowed. -/
def literal? (flags : Flags) (c : Char) : Option Char :=
  if flags.unicode || c.toNat < 128 then some c else none

inductive Item
  | char (c : Char)
  | set (set : CharSet)

/-- One element of a set: a character or an escape. -/
def item? (flags : Flags) : List Char → Option (Item × List Char)
  | [] => none
  | '\\' :: rest => do
    match ← Escape.read? flags rest with
    | (.literal c _, rest) => return (.char (← literal? flags c), rest)
    | (.set set, rest) => return (.set set, rest)
    | (.look _, _) => none
  | c :: rest => (literal? flags c).map fun c => (.char c, rest)

/-- A range, or a single element where no range is written. -/
def range? (flags : Flags) (cs : List Char) : Option (CharSet × List Char) := do
  let (first, rest) ← item? flags cs
  let rest := flags.skip rest
  let follower := match rest with
    | '-' :: others => (flags.skip others).head?
    | _ => some ']'
  if rest.isEmpty then none
  if follower = some ']' ∨ follower = some '-' then
    match first with
    | .char c => return (CharSet.single c, rest)
    | .set set => return (set, rest)
  let (last, rest) ← item? flags (flags.skip rest.tail)
  match first, last with
  | .char a, .char b => if a ≤ b then return (CharSet.range a b, rest) else none
  | _, _ => none

/-- A class such as `[:alpha:]`, whose opening bracket has been read. -/
def asciiClass? : List Char → Option (CharSet × List Char)
  | ':' :: rest =>
    let (negated, rest) := match rest with
      | '^' :: rest => (true, rest)
      | _ => (false, rest)
    match rest.dropWhile (· != ':') with
    | ':' :: ']' :: after =>
      (CharSet.asciiClass? (rest.takeWhile (· != ':'))).map fun set =>
        (set.complIf negated, after)
    | _ => none
  | _ => none

/-- Hyphens at the start of a set stand for themselves. -/
def leadingHyphens (flags : Flags) : Nat → List Char → List Part × List Char
  | 0, cs => ([], cs)
  | fuel + 1, cs =>
    match cs with
    | '-' :: rest =>
      let (parts, rest) := leadingHyphens flags fuel (flags.skip rest)
      (⟨CharSet.single '-', 0⟩ :: parts, rest)
    | _ => ([], cs)

/-- The start of a set after its bracket: whether the complement is meant, and
what stands for itself only because it comes first. -/
def opening (flags : Flags) (cs : List Char) : Bool × List Part × List Char :=
  let (negated, cs) := match flags.skip cs with
    | '^' :: rest => (true, flags.skip rest)
    | cs => (false, cs)
  let (parts, cs) := leadingHyphens flags cs.length cs
  match parts, cs with
  | [], ']' :: rest => (negated, [⟨CharSet.single ']', 0⟩], flags.skip rest)
  | parts, cs => (negated, parts, cs)

/-- The elements up to the closing bracket. -/
def body? (flags : Flags) :
    Nat → Bool → Option Pending → List Part → List Char → Option (Part × List Char)
  | 0, _, _, _, _ => none
  | fuel + 1, negated, pending, parts, cs =>
    let joined (join : Join) (rest : List Char) : Option (Part × List Char) :=
      body? flags fuel negated (some ⟨settle flags pending (union parts), join⟩) [] rest
    let joinOrItem (join : Join) (mark : Char) (cs rest : List Char) :
        Option (Part × List Char) :=
      match rest with
      | d :: after =>
        if d = mark then joined join after
        else do
          let (set, rest) ← range? flags cs
          body? flags fuel negated pending (parts ++ [⟨set, 0⟩]) rest
      | [] => none
    match flags.skip cs with
    | [] => none
    | ']' :: rest => do
      let whole := settle flags pending (union parts)
      return (⟨← flags.close? negated whole.set, whole.nesting + 1⟩, rest)
    | '[' :: rest =>
      match asciiClass? rest with
      | some (set, after) => do
        let set ← if flags.unicode || set.isAscii then some set else none
        body? flags fuel negated pending (parts ++ [⟨set, 0⟩]) after
      | none => do
        let (inner, first, rest) := opening flags rest
        let (part, after) ← body? flags fuel inner none first rest
        body? flags fuel negated pending (parts ++ [part]) after
    | c :: rest =>
      if c = '&' then joinOrItem .inter '&' (c :: rest) rest
      else if c = '-' then joinOrItem .diff '-' (c :: rest) rest
      else if c = '~' then joinOrItem .symmDiff '~' (c :: rest) rest
      else do
        let (set, rest) ← range? flags (c :: rest)
        body? flags fuel negated pending (parts ++ [⟨set, 0⟩]) rest

/-- A set in brackets, whose opening bracket has been read. -/
def read? (flags : Flags) (cs : List Char) : Option (Pattern × List Char) := do
  let (negated, first, rest) := opening flags cs
  let (part, rest) ← body? flags (cs.length + 1) negated none first rest
  return (.one part.set part.nesting, rest)

end Bracket

end QuerySets.Pattern
