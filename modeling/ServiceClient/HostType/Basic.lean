import ServiceClient.Text.Digit

namespace ServiceClient

structure HostType where
  name : String
  arguments : List HostType := []
  isModel : Bool := false

namespace HostType

mutual

def decEq : (a b : HostType) → Decidable (a = b)
  | ⟨n, as, m⟩, ⟨n', as', m'⟩ =>
    match decEq.list as as' with
    | isTrue h =>
      if g : n = n' ∧ m = m' then isTrue (by rw [h, g.1, g.2])
      else isFalse fun e => g ⟨congrArg HostType.name e, congrArg HostType.isModel e⟩
    | isFalse h => isFalse fun e => h (congrArg HostType.arguments e)

def decEq.list : (as bs : List HostType) → Decidable (as = bs)
  | [], [] => isTrue rfl
  | [], _ :: _ => isFalse nofun
  | _ :: _, [] => isFalse nofun
  | a :: as, b :: bs =>
    match decEq a b, decEq.list as bs with
    | isTrue h, isTrue g => isTrue (by rw [h, g])
    | isFalse h, _ => isFalse fun e => h (List.cons.inj e).1
    | _, isFalse g => isFalse fun e => g (List.cons.inj e).2

end

instance : DecidableEq HostType := decEq

def afterLastDot (cs : List Char) : List Char :=
  (cs.reverse.takeWhile (· ≠ '.')).reverse

def dropReversedArity (cs : List Char) : List Char :=
  match cs.takeWhile Text.isDigit, cs.dropWhile Text.isDigit with
  | _ :: _, '`' :: rest => rest
  | _, _ => cs

def dropArity (cs : List Char) : List Char :=
  match cs.reverse with
  | '\n' :: rest => (dropReversedArity rest).reverse ++ ['\n']
  | rest => (dropReversedArity rest).reverse

def simpleName (t : HostType) : String :=
  .ofList (dropArity (afterLastDot t.name.toList))

mutual

def toNotation : HostType → String
  | ⟨name, [], _⟩ => name
  | ⟨name, a :: as, _⟩ => name ++ "<" ++ a.toNotation ++ moreToNotation as ++ ">"

def moreToNotation : List HostType → String
  | [] => ""
  | a :: as => ", " ++ a.toNotation ++ moreToNotation as

end

instance : ToString HostType := ⟨toNotation⟩

mutual

def markModels (names : List String) : HostType → HostType
  | ⟨name, arguments, isModel⟩ =>
    ⟨name, markAllModels names arguments,
      isModel || names.contains (simpleName ⟨name, arguments, isModel⟩)⟩

def markAllModels (names : List String) : List HostType → List HostType
  | [] => []
  | a :: as => a.markModels names :: markAllModels names as

end

theorem markAllModels_eq_map (names : List String) (as : List HostType) :
    markAllModels names as = as.map (markModels names) := by
  induction as with
  | nil => simp [markAllModels]
  | cons a as ih => simp [markAllModels, ih]

@[simp] theorem name_markModels (names : List String) (t : HostType) :
    (t.markModels names).name = t.name := by
  cases t; simp [markModels]

@[simp] theorem arguments_markModels (names : List String) (t : HostType) :
    (t.markModels names).arguments = t.arguments.map (markModels names) := by
  cases t; simp [markModels, markAllModels_eq_map]

@[simp] theorem simpleName_markModels (names : List String) (t : HostType) :
    (t.markModels names).simpleName = t.simpleName := by
  simp [simpleName]

end HostType

end ServiceClient
