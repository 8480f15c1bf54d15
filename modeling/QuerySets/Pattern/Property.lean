import QuerySets.Pattern.CharSet

/-!
Character properties by name. Names are compared without regard to case, blanks,
hyphens and underscores, and with or without `is` in front.
-/

namespace QuerySets.Pattern.Property

open Text

/-- The letters of a name that count. -/
def normalize (name : List Char) : List Char :=
  let (marked, body) := match name with
    | i :: s :: rest =>
      if i.toLower = 'i' ∧ s.toLower = 's' then (true, rest) else (false, name)
    | _ => (false, name)
  let kept := (body.filter fun c => c.toNat < 128 && c != ' ' && c != '_' && c != '-').map
    Char.toLower
  if marked && kept == ['c'] then ['i', 's', 'c'] else kept

def hasName (normal : List Char) (names : List String) : Bool :=
  names.any fun name => normalize name.toList == normal

/-- General categories that stand for several others, with their names. -/
def groups : List (List String × List String) :=
  [(["L", "Letter"], ["Lu", "Ll", "Lt", "Lm", "Lo"]),
   (["LC", "Cased_Letter"], ["Lu", "Ll", "Lt"]),
   (["M", "Mark", "Combining_Mark"], ["Mn", "Mc", "Me"]),
   (["N", "Number"], ["Nd", "Nl", "No"]),
   (["P", "Punctuation", "punct"], ["Pc", "Pd", "Ps", "Pe", "Pi", "Pf", "Po"]),
   (["S", "Symbol"], ["Sm", "Sc", "Sk", "So"]),
   (["Z", "Separator"], ["Zs", "Zl", "Zp"])]

def categories (names : List String) (c : Char) : Bool :=
  GeneralCategory.named.any fun (short, _, set) => names.contains short && set.contains c

def isUnassigned (c : Char) : Bool := !GeneralCategory.isAssigned c

/-- The set of a general category. -/
def category? (normal : List Char) : Option CharSet :=
  if hasName normal ["Any"] then some ⟨fun _ => true⟩
  else if hasName normal ["Assigned"] then some ⟨GeneralCategory.isAssigned⟩
  else if hasName normal ["ASCII"] then some (CharSet.range '\x00' '\x7f')
  else if hasName normal ["Cn", "Unassigned"] then some ⟨isUnassigned⟩
  else if hasName normal ["Cs", "Surrogate"] then some CharSet.none
  else if hasName normal ["C", "Other"] then
    some ⟨fun c => isUnassigned c || categories ["Cc", "Cf", "Co"] c⟩
  else if hasName normal ["digit"] then some CharSet.digit
  else if hasName normal ["cntrl"] then some ⟨categories ["Cc"]⟩
  else
    match groups.find? fun (names, _) => hasName normal names with
    | some (_, members) => some ⟨categories members⟩
    | none =>
      (GeneralCategory.named.find? fun (short, long, _) => hasName normal [short, long]).map
        fun (_, _, set) => ⟨set.contains⟩

def scriptAt? (normal : List Char) : Option Script.Entry :=
  Script.all.find? fun entry =>
    hasName normal [entry.name, entry.short] ||
      (entry.short == "Copt" && hasName normal ["Qaac"]) ||
      (entry.short == "Zinh" && hasName normal ["Qaai"])

/-- The characters that belong to a script. -/
def script? (normal : List Char) : Option CharSet :=
  if hasName normal ["Unknown", "Zzzz"] then
    some ⟨fun c => !Script.all.any fun entry => entry.own.contains c⟩
  else (scriptAt? normal).map fun entry => ⟨entry.own.contains⟩

/-- The characters that are used in a script. -/
def scriptExtension? (normal : List Char) : Option CharSet :=
  if hasName normal ["Unknown", "Zzzz"] then script? normal
  else (scriptAt? normal).map fun entry =>
    ⟨fun c => entry.further.contains c || (entry.own.contains c && !entry.foreign.contains c)⟩

/-- Whether a character is no longer the same when all its letters are changed. -/
def changesUnder (change : Char → List Char) (c : Char) : Bool := change c != [c]

/-- Properties about changes of case. -/
def caseProperties : List (String × String × (Char → Bool)) :=
  [("Changes_When_Lowercased", "CWL", changesUnder Case.lowerChars),
   ("Changes_When_Uppercased", "CWU", changesUnder Case.upperChars),
   ("Changes_When_Casemapped", "CWCM",
     fun c => changesUnder Case.lowerChars c || changesUnder Case.upperChars c),
   ("Changes_When_Casefolded", "CWCF", changesUnder fun c => [Case.fold c])]

def binary? (normal : List Char) : Option CharSet :=
  let properties := Text.Property.named ++ caseProperties
  let found := properties.find? fun (long, short, _) => hasName normal [long, short]
  found.map fun (_, _, holds) => ⟨holds⟩

/-- The set that a single name stands for. Three short names are those of a
category although a property has the same one. -/
def named? (name : List Char) : Option CharSet :=
  let normal := normalize name
  let asCategory := hasName normal ["cf", "sc", "lc"]
  (if asCategory then none else binary? normal) <|> category? normal <|> script? normal

/-- The set of the characters whose property has a given value. -/
def valued? (property value : List Char) : Option CharSet :=
  let property := normalize property
  let value := normalize value
  if hasName property ["General_Category", "gc"] then category? value
  else if hasName property ["Script", "sc"] then script? value
  else if hasName property ["Script_Extensions", "scx"] then scriptExtension? value
  else none

end QuerySets.Pattern.Property
