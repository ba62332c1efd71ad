import ServiceClient.Text.Case

namespace ServiceClient.Text

def inOrder (a b : String) : Bool := decide (a ≤ b)

def alphabetical (a b : String) : Bool :=
  if fold a = fold b then inOrder a b else inOrder (fold a) (fold b)

def sort (texts : List String) : List String := texts.mergeSort inOrder

/-- Sorts alphabetically by a name; equals stay in their order. -/
def sortByName (name : α → String) (items : List α) : List α :=
  items.mergeSort fun a b => alphabetical (name a) (name b)

theorem sort_perm (texts : List String) : (sort texts).Perm texts := List.mergeSort_perm ..

theorem sortByName_perm (name : α → String) (items : List α) :
    (sortByName name items).Perm items := List.mergeSort_perm ..

end ServiceClient.Text
