import QuerySets.Value

/-!
Fresh identifiers. An identifier tells the second, the process and a count.
-/

namespace QuerySets

structure IdSupply where
  second : Nat
  process : Nat
  next : Nat

namespace IdSupply

/-- Four bytes of the second, five of the process and three of the count. -/
def current (s : IdSupply) : ObjectId :=
  .ofNat <| (s.second % (1 <<< 32)) <<< 64 + (s.process % (1 <<< 40)) <<< 24 + s.next % (1 <<< 24)

def advance (s : IdSupply) : IdSupply := { s with next := s.next + 1 }

/-- A document without an identifier gets a fresh one as its first field. -/
def assignOne (s : IdSupply) (d : Document) : IdSupply × Document :=
  if d.contains "_id" then (s, d)
  else (s.advance, ⟨("_id", .objectId s.current) :: d.entries⟩)

def assign (s : IdSupply) : List Document → IdSupply × List Document
  | [] => (s, [])
  | d :: rest =>
    let (s, d) := s.assignOne d
    let (s, others) := assign s rest
    (s, d :: others)

end IdSupply

end QuerySets
