import DiscountPolicy.Channel
import DiscountPolicy.Client
import DiscountPolicy.Constraint

/-! Everything that can fail, by kind, and how a failure is worded: the heading of its kind and a
text that says what happened. Requests are sent and data are read by libraries, which word their
failures themselves; those texts are not told here. -/

namespace DiscountPolicy

inductive FailureKind where
  | invalidPredicate
  | invalidConstraint
  | config
  | http
  | unauthorized
  | backend (status : Nat)
  | serialization
  | realtime
  deriving DecidableEq, Repr

def FailureKind.describe (kind : FailureKind) (text : String) : String :=
  match kind with
  | .invalidPredicate => "Invalid predicate: " ++ text
  | .invalidConstraint => "Invalid constraint: " ++ text
  | .config => "Configuration error: " ++ text
  | .http => "HTTP error: " ++ text
  | .unauthorized => "Unauthorized"
  | .backend status => "Backend returned " ++ intText status ++ ": " ++ text
  | .serialization => "Serialization error: " ++ text
  | .realtime => "Realtime connection error: " ++ text

/-- A failure, by its cause. -/
inductive Failure where
  | expression (d : Expression.Defect)
  | emptyExpression
  | encoding (d : Predicate.Defect)
  | constraint (v : Constraint.Violation)
  | config (p : Config.Problem)
  | client (f : Client.Failure)
  | channel (p : Channel.Problem)

namespace Failure

def kind : Failure → FailureKind
  | .expression _ | .emptyExpression | .encoding _ => .invalidPredicate
  | .constraint _ => .invalidConstraint
  | .config _ => .config
  | .client .invalidUrl | .client .unsendableToken | .client .noReply => .http
  | .client .unauthorized => .unauthorized
  | .client (.backend status _) => .backend status
  | .client .notData => .serialization
  | .channel _ => .realtime

/-- The text that says what happened; none where a library words it. -/
def text? : Failure → Option String
  | .expression d => some d.message
  | .emptyExpression => some "Expression is empty"
  | .encoding d => some d.message
  | .constraint v => some v.message
  | .config p => some p.message
  | .client .invalidUrl | .client .unsendableToken | .client .noReply | .client .notData => none
  | .client .unauthorized => some ""
  | .client (.backend _ message) => some message
  | .channel p => some p.message

def message? (f : Failure) : Option String := f.text?.map f.kind.describe

end Failure

end DiscountPolicy
