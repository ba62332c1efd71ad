import ServiceClient.DataService
import ServiceClient.Proofs.Text.Order

namespace ServiceClient

namespace Grouping

def written (g : Grouping) : List String :=
  ["\t" ++ g.memberName ++ " = \x7b"] ++ g.entries.map Entry.render ++ ["\t\x7d;"]

def sorted (g : Grouping) : Grouping :=
  { g with entries := Text.sortByName Entry.sourceName g.entries }

theorem lines_eq_written (g : Grouping) : g.lines = g.sorted.written := rfl

theorem entries_sorted_perm (g : Grouping) : g.sorted.entries.Perm g.entries :=
  Text.sortByName_perm _ _

theorem exists_lines (g : Grouping) : ∃ inner : List String,
    inner.Perm (g.entries.map Entry.render) ∧
      g.lines = ("\t" ++ g.memberName ++ " = \x7b") :: inner ++ ["\t\x7d;"] :=
  ⟨g.sorted.entries.map Entry.render, g.entries_sorted_perm.map Entry.render, rfl⟩

theorem pairwise_sorted (g : Grouping) :
    g.sorted.entries.Pairwise fun a b => Text.alphabetical a.sourceName b.sourceName = true :=
  Text.pairwise_sortByName _ _

end Grouping

namespace DataService

def unlines (lines : List String) : String := String.join (lines.map (· ++ "\n"))

def written (className importPath basePath : String) (registry : Registry)
    (groupings : List Grouping) : List String :=
  preamble ++ registry.sortedNames.map (importLine importPath) ++ opening className basePath
    ++ groupings.flatMap Grouping.written ++ [""] ++ errorHandler ++ ["\x7d"]

theorem exists_lines (className importPath basePath : String) (registry : Registry)
    (groupings : List Grouping) :
    ∃ rest, lines className importPath basePath registry groupings =
      preamble ++ registry.sortedNames.map (importLine importPath)
        ++ (opening className basePath ++ rest) := by
  refine ⟨(Text.sortByName Grouping.resourceName groupings).flatMap Grouping.lines
    ++ ([""] ++ (errorHandler ++ ["\x7d"])), ?_⟩
  rw [lines]
  simp only [List.append_assoc]

theorem lines_eq_written (className importPath basePath : String) (registry : Registry)
    (groupings : List Grouping) :
    lines className importPath basePath registry groupings =
      written className importPath basePath registry
        ((Text.sortByName Grouping.resourceName groupings).map Grouping.sorted) := by
  rw [lines, written, List.flatMap_map, funext Grouping.lines_eq_written]

end DataService

end ServiceClient
