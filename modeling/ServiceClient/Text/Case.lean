import ServiceClient.Text.CaseTable

namespace ServiceClient.Text

def upperChar (c : Char) : List Char :=
  if c.toNat < 0x80 then [c.toUpper] else (upperTable.image c.toNat).map Char.ofNat

def foldChar (c : Char) : List Char :=
  if c.toNat < 0x80 then [c.toLower] else (foldTable.image c.toNat).map Char.ofNat

def upper (text : String) : String := .ofList (text.toList.flatMap upperChar)

def fold (text : String) : String := .ofList (text.toList.flatMap foldChar)

theorem upperChar_of_lt {c : Char} (h : c.toNat < 0x80) : upperChar c = [c.toUpper] := by
  simp [upperChar, h]

theorem foldChar_of_lt {c : Char} (h : c.toNat < 0x80) : foldChar c = [c.toLower] := by
  simp [foldChar, h]

@[simp] theorem fold_append (a b : String) : fold (a ++ b) = fold a ++ fold b := by
  simp [fold]

@[simp] theorem toList_upper (text : String) :
    (upper text).toList = text.toList.flatMap upperChar := by
  simp [upper]

end ServiceClient.Text
