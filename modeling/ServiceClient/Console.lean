import ServiceClient.Report

namespace ServiceClient

/-- What a console can show. One that reads the marks of styles cannot show a text in which they do
not match, be it in the end of a message that is left out here. -/
structure Console where
  shows : Printed → Bool

namespace Console

def recording : Console := ⟨fun _ => true⟩

def refused? (console : Console) (things : List Printed) : Option Printed :=
  things.find? (!console.shows ·)

def shown (console : Console) (things : List Printed) : List Printed :=
  things.takeWhile console.shows

variable {console : Console} {things more : List Printed}

theorem refused?_eq_none_iff :
    console.refused? things = none ↔ ∀ thing ∈ things, console.shows thing = true := by
  simp [refused?]

theorem refused?_append (h : console.refused? things = none) :
    console.refused? (things ++ more) = console.refused? more := by
  rw [refused?] at h ⊢
  rw [List.find?_append, h, Option.none_or]
  rfl

theorem shown_append (h : console.refused? things = none) :
    console.shown (things ++ more) = things ++ console.shown more :=
  List.takeWhile_append_of_pos (refused?_eq_none_iff.1 h)

theorem shown_of_refused?_eq_none (h : console.refused? things = none) :
    console.shown things = things := by
  have all : console.shown (things ++ []) = things ++ console.shown [] := shown_append h
  rwa [List.append_nil, show console.shown [] = [] from rfl, List.append_nil] at all

theorem refused?_append_of_refused {thing : Printed} (h : console.refused? things = some thing) :
    console.refused? (things ++ more) = some thing := by
  rw [refused?] at h ⊢
  rw [List.find?_append, h, Option.some_or]

theorem shown_append_of_refused {thing : Printed} (h : console.refused? things = some thing) :
    console.shown (things ++ more) = console.shown things := by
  induction things with
  | nil => contradiction
  | cons first things ih =>
    cases shows : console.shows first with
    | false => simp [shown, shows]
    | true =>
      have rest : console.refused? things = some thing := by simpa [refused?, shows] using h
      simpa [shown, shows] using ih rest

theorem mem_of_mem_shown {thing : Printed} (h : thing ∈ console.shown things) : thing ∈ things :=
  (List.takeWhile_sublist _).mem h

end Console

end ServiceClient
