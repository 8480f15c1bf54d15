/-!
Blank characters, and text without those at its ends.
-/

namespace QuerySets.Text

/-- Characters with the property of being white space. -/
def isBlank (c : Char) : Bool :=
  let n := c.toNat
  (9 ≤ n && n ≤ 13) || n = 0x20 || n = 0x85 || n = 0xa0 || n = 0x1680 ||
    (0x2000 ≤ n && n ≤ 0x200a) || n = 0x2028 || n = 0x2029 || n = 0x202f || n = 0x205f ||
    n = 0x3000

def dropBlanks (cs : List Char) : List Char := cs.dropWhile isBlank

def trimChars (cs : List Char) : List Char :=
  (dropBlanks (dropBlanks cs).reverse).reverse

def trim (text : String) : String := String.ofList (trimChars text.toList)

/-- Whether nothing but blanks stands in a text. -/
def isBlankText (text : String) : Bool := text.toList.all isBlank

end QuerySets.Text
