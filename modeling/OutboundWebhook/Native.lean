import OutboundWebhook.Service

/-!
# The operations the plugin provides

A flow ends with a response, with an error of a domain, with a runtime failure, or in a panic. Its
operation hands the caller the first two as the inner result and the third as the outer one. The
three admin flows share one error type, so each admin operation also has to say what it makes of an
error that belongs to another of them: a runtime failure by the name of `unexpected Admin flow
error`.
-/

namespace OutboundWebhook

/-- What the runtime hands to the caller of an operation. -/
abbrev NativeResult (ε ρ : Type) := Except (Abort RuntimeFailure) (Except ε ρ)

def invariantFailure (detail : String) : RuntimeFailure := .pluginFailure detail

/-- `enqueue` -/
def nativeEnqueue :
    Except (Abort FlowError) EnqueueResponse → NativeResult EnqueueError EnqueueResponse
  | .ok response => .ok (.ok response)
  | .error (.error (.domain error)) => .ok (.error error)
  | .error (.error (.runtime error)) => .error (.error error)
  | .error (.panic message) => .error (.panic message)

/-- An admin operation; `domain` picks the errors that are its own. -/
def nativeAdmin {ε ρ : Type} (domain : AdminFlowError → Option ε) :
    Except (Abort AdminFlowError) ρ → NativeResult ε ρ
  | .ok response => .ok (.ok response)
  | .error (.error (.runtime error)) => .error (.error error)
  | .error (.error error) =>
    match domain error with
    | some error => .ok (.error error)
    | none => .error (.error (invariantFailure "unexpected Admin flow error"))
  | .error (.panic message) => .error (.panic message)

/-- `dispatch` -/
def nativeDispatch :
    Except (Abort AdminFlowError) DispatchResponse → NativeResult DispatchError DispatchResponse :=
  nativeAdmin fun
    | .dispatch error => some error
    | _ => none

/-- `inspect` -/
def nativeInspect :
    Except (Abort AdminFlowError) InspectResponse → NativeResult InspectError InspectResponse :=
  nativeAdmin fun
    | .inspect error => some error
    | _ => none

/-- `replay` -/
def nativeReplay :
    Except (Abort AdminFlowError) ReplayResponse → NativeResult ReplayError ReplayResponse :=
  nativeAdmin fun
    | .replay error => some error
    | _ => none

/-- The runtime failure or the panic of an operation. -/
def NativeResult.failure {ε ρ : Type} : NativeResult ε ρ → Option (Abort RuntimeFailure)
  | .ok _ => none
  | .error failure => some failure

/-- The runtime failure or the panic a call ends with. -/
def Answer.failure : Answer → Option (Abort RuntimeFailure)
  | .enqueue answer => (nativeEnqueue answer).failure
  | .dispatch answer => (nativeDispatch answer).failure
  | .inspect answer => (nativeInspect answer).failure
  | .replay answer => (nativeReplay answer).failure

def Observation.failure (o : Observation) : Option (Abort RuntimeFailure) :=
  o.answer.bind Answer.failure

end OutboundWebhook
