import TypedScalar.Yaml.Cursor
import TypedScalar.Yaml.Graph

/-! Merges: the entries of the mappings under a merge key come in front of the mapping's own, those of the
last mapping of a sequence first. As a value is looked up from the end, a mapping's own entries win. Merged
mappings are resolved themselves before. -/

namespace TypedScalar.Yaml.Graph

/-- The entries before the first merge, what it merges, and the entries behind it. -/
def splitAtMerge? (g : Graph) : List (Nat × Nat) → Option (List (Nat × Nat) × Nat × List (Nat × Nat))
  | [] => none
  | (k, v) :: rest =>
    if g.tag k = .merge then some ([], v, rest)
    else (g.splitAtMerge? rest).map fun (before, merged, after) => ((k, v) :: before, merged, after)

/-- Makes texts of the keys that are lone equals signs. -/
def textKeys (g : Graph) (entries : List (Nat × Nat)) : Graph :=
  entries.foldl (fun g e => if g.tag e.1 = .value then g.setTag e.1 .string else g) g

/-- The mappings that a merge names. -/
def mergeSources? (g : Graph) (n : Nat) : List Nat :=
  match g.content n with
  | .sequence items => items
  | _ => [n]

/-- Resolves the merges of a mapping. Each removes one merge from the graph before it looks at the mappings
that it names, so that their number bounds the work, also for a mapping that merges itself. Merges of merges
are followed over a number of mappings only. -/
def resolveMerges : Nat → Nat → Graph → Nat → List (Nat × Nat) → Except Fault Graph
  | 0, _, g, _, _ => .ok g
  | _ + 1, 0, _, _, _ => .error .nestedTooDeeply
  | fuel + 1, levels + 1, g, n, merged =>
    match g.entries? n with
    | none => .error .unmergeable
    | some entries =>
      match g.splitAtMerge? entries with
      | none => .ok ((g.textKeys entries).setContent n (.mapping (merged ++ entries)))
      | some (before, source, after) =>
        let resolveSource (acc : Graph × List (Nat × Nat)) (m : Nat) : Except Fault (Graph × List (Nat × Nat)) :=
          (resolveMerges fuel levels acc.1 m []).map fun g => (g, (g.entries? m).getD [] ++ acc.2)
        let g := g.setContent n (.mapping (before ++ after))
        ((mergeSources? g source).foldlM resolveSource (g, [])).bind fun (g, entries) =>
          resolveMerges fuel (levels + 1) g n (merged ++ entries)

/-- A graph with the merges of one mapping resolved. -/
def withMerges (g : Graph) (n : Nat) : Except Fault Graph := g.resolveMerges (g.merges + 1) followLimit n []

end TypedScalar.Yaml.Graph
