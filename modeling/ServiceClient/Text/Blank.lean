namespace ServiceClient.Text

def blankRanges : List (Nat × Nat) :=
  [(0x09, 0x0D), (0x1C, 0x20), (0x85, 0x85), (0xA0, 0xA0), (0x1680, 0x1680), (0x2000, 0x200A),
    (0x2028, 0x2029), (0x202F, 0x202F), (0x205F, 0x205F), (0x3000, 0x3000)]

def inRanges (ranges : List (Nat × Nat)) (n : Nat) : Bool :=
  ranges.any fun r => r.1 ≤ n && n ≤ r.2

def isBlank (c : Char) : Bool := inRanges blankRanges c.toNat

def stripEnd (p : Char → Bool) (cs : List Char) : List Char :=
  (cs.reverse.dropWhile p).reverse

def strip (p : Char → Bool) (cs : List Char) : List Char :=
  stripEnd p (cs.dropWhile p)

def trim (text : String) : String := .ofList (strip isBlank text.toList)

def dropSuffix? (suffix text : String) : Option String :=
  if suffix.toList.isSuffixOf text.toList then
    some (.ofList (text.toList.take (text.toList.length - suffix.toList.length)))
  else none

def startsWith (start text : String) : Bool := start.toList.isPrefixOf text.toList

def endsWith (suffix text : String) : Bool := suffix.toList.isSuffixOf text.toList

@[simp] theorem stripEnd_nil (p : Char → Bool) : stripEnd p [] = [] := rfl

end ServiceClient.Text
