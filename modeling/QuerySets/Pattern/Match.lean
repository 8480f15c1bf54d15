import QuerySets.Pattern.Basic

/-!
Search for a match. A set of places in the text is a number whose bit `i` stands
for the place before character `i`. A pattern takes the places where a match may
start to those where it may end; repetition goes on until no new place is found.
-/

namespace QuerySets.Pattern

/-- A pattern laid over one text: characters and places are known by their bits. -/
inductive Overlay
  | advance (mask : Nat)
  | check (mask : Nat)
  | sequence (parts : List Overlay)
  | choice (branches : List Overlay)
  | repetition (body : Overlay) (least : Nat) (most : Option Nat)

/-- The number whose bits tell where a test holds. -/
def bits : List Bool → Nat
  | [] => 0
  | b :: rest => 2 * bits rest + (if b then 1 else 0)

/-- The characters on both sides of every place of a text. -/
def places (before : Option Char) : List Char → List (Option Char × Option Char)
  | [] => [(before, none)]
  | c :: rest => (before, some c) :: places (some c) rest

mutual
def overlay (text : List Char) : Pattern → Overlay
  | setting => .sequence []
  | one set _ => .advance (bits (text.map set.contains))
  | look l => .check (bits ((places none text).map fun (before, after) => l.holds before after))
  | group body => overlay text body
  | repetition body least most => .repetition (overlay text body) least most
  | sequence parts => .sequence (overlayAll text parts)
  | choice branches => .choice (overlayAll text branches)

def overlayAll (text : List Char) : List Pattern → List Overlay
  | [] => []
  | p :: rest => overlay text p :: overlayAll text rest
end

/-- Takes `n` steps, or fewer when no place is left. -/
def steps (step : Nat → Nat) : Nat → Nat → Nat
  | 0, s => s
  | n + 1, s => if s = 0 then 0 else steps step n (step s)

/-- Adds what is reached from `new` in at most `n` steps to the places reached so far. -/
def reach (step : Nat → Nat) : Nat → Nat → Nat → Nat
  | 0, _, reached => reached
  | n + 1, new, reached =>
    let next := step new
    let fresh := next ^^^ (next &&& reached)
    if fresh = 0 then reached else reach step n fresh (reached ||| fresh)

mutual
/-- The places where a match that starts in `s` may end, in a text of `length` characters. -/
def Overlay.ends (length : Nat) : Overlay → Nat → Nat
  | .advance mask, s => (s &&& mask) <<< 1
  | .check mask, s => s &&& mask
  | .sequence parts, s => endsInOrder length parts s
  | .choice branches, s => endsOfAny length branches s
  | .repetition body least most, s =>
    let first := steps (Overlay.ends length body) least s
    let more := match most with
      | some bound => bound - least
      | none => length + 1
    reach (Overlay.ends length body) more first first

def endsInOrder (length : Nat) : List Overlay → Nat → Nat
  | [], s => s
  | part :: rest, s => endsInOrder length rest (part.ends length s)

def endsOfAny (length : Nat) : List Overlay → Nat → Nat
  | [], _ => 0
  | branch :: rest, s => branch.ends length s ||| endsOfAny length rest s
end

/-- Whether the pattern matches anywhere in the text. -/
def isMatch (p : Pattern) (text : String) : Bool :=
  let cs := text.toList
  let length := cs.length
  (overlay cs p).ends length ((1 <<< (length + 1)) - 1) != 0

end QuerySets.Pattern
