/-
This file gathers the reasons why an expression has no truth value.
-/

import Predicates.Expression.Execution
import Predicates.Settings

namespace Predicates

inductive Failure where
  | setting (error : SettingError)
  | source (error : SourceError)
  | typing (error : TypingError)
  | binding (error : BindingError)
  | evaluation (error : EvaluationError)
  | unknownHandle (name : String)
  deriving DecidableEq

namespace Failure

def ofCompile : CompileError → Failure
  | .source error => .source error
  | .typing error => .typing error

def ofExecution : ExecutionError → Failure
  | .binding error => .binding error
  | .evaluation error => .evaluation error

/-- Only decimal signals have no message. -/
def message? : Failure → Option String
  | .setting error => some error.message
  | .source error => some error.message
  | .typing error => some error.message
  | .binding error => some error.message
  | .evaluation error => error.message?
  | .unknownHandle name => some name

/-- A malformed text is neither read nor parsed. -/
def isMalformed : Failure → Bool
  | .source error => error.isMalformed
  | _ => false

end Failure

end Predicates
