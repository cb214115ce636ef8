/-! Lists of pairs as maps: what is found in them, and what is found after a change of the values. -/

namespace TypedScalar.Association

variable {α β γ : Type} [BEq α] [LawfulBEq α]

theorem lookup_cons [DecidableEq α] (a : α) (x : α × β) (rest : List (α × β)) :
    (x :: rest).lookup a = if a = x.1 then some x.2 else rest.lookup a := by
  rw [List.lookup_cons]
  by_cases ha : a = x.1
  · rw [if_pos ha, beq_iff_eq.2 ha]
  · rw [if_neg ha, beq_false_of_ne ha]

theorem lookup_mapValues (g : α → β → γ) (l : List (α × β)) (a : α) :
    (l.map fun x => (x.1, g x.1 x.2)).lookup a = (l.lookup a).map (g a) := by
  induction l with
  | nil => rfl
  | cons x rest ih =>
    rw [List.map_cons, List.lookup_cons, List.lookup_cons]
    cases ha : a == x.1 with
    | true => rw [← beq_iff_eq.1 ha, Option.map_some]
    | false => exact ih

end TypedScalar.Association
