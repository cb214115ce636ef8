import Mathlib.Data.List.Basic
import TypedScalar.Proofs.Scalar.Representation
import TypedScalar.Proofs.Session.Frame

/-! Scalars that sessions return. Whatever the operations are that a session carries out, and
however they change the settings and the registry or fail, each scalar that it shows represents a
scalar of a class that has a kind. -/

namespace TypedScalar.Session

/-- Whether an answer that shows a scalar represents one. -/
def Answer.Represents : Answer → Prop
  | .scalar view _ => ∃ c k, view.Represents c k
  | _ => True

theorem Answer.represents_of_showsScalar {a : Answer} (h : a.ShowsScalar) : a.Represents := by
  cases a with
  | scalar view same =>
    obtain ⟨x, r, rfl⟩ := h
    exact ⟨_, _, x.view_represents r⟩
  | _ => trivial

variable (clock : Log.Clock) (files : Files)

theorem step_represents (s : Session) (o : Operation) : (s.step clock files o).1.Represents := by
  have hshows : KeepsShowing (fun _ => True) (perform clock files o) := perform_maintains fun _ _ => trivial
  rw [step]
  rcases hresult : outcome (perform clock files o) s with ⟨err | a, s'⟩
  · trivial
  · exact Answer.represents_of_showsScalar ((hshows s trivial).2 a (congrArg Prod.fst hresult))

/-- Every scalar that is shown in a run of any operations represents a scalar of a class that
has a kind: if it is valid, it holds a value of the kind, within its bounds or at its precision,
that is stored at its width, and is no null kind; if it is null, it shows the sentinel of the kind
and has no plain value; and in either case its class builds it from its plain value. The same goes
for every scalar that there is. -/
theorem run_represents (s : Session) (operations : List Operation) :
    (s.run clock files operations).1.Forall Answer.Represents ∧
      ∀ (x : Scalar) (r : Rendering), (x.view r).Represents x.cls x.kind := by
  refine ⟨?_, fun x r => x.view_represents r⟩
  induction operations generalizing s with
  | nil => trivial
  | cons o rest ih =>
    rw [run, List.forall_cons]
    exact ⟨step_represents clock files s o, ih _⟩

example :
    (Session.initial.run "" ⟨[]⟩ [.construct (.make "Int8Scalar" none) none]).1 =
      [.scalar ⟨"Int8Scalar", "int8", false, .integer 0, .none, "null", "<Int8Scalar: null>", .plain "int"⟩
        none] := by
  rfl

end TypedScalar.Session
