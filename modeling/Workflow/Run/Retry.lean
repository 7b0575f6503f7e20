import Workflow.Config.Basic
import Workflow.Run.Failure

/-!
# Retries

Whether a failed step is tried again: the policy of the step with what is missing taken from the
configuration.

## Main definitions

* `Workflow.RetrySchedule` — how often and after which delay.
* `Workflow.RetrySchedule.allows` — the decision after a failure.
-/

namespace Workflow

/-- How often a step is tried again, and after which delay. -/
structure RetrySchedule where
  /-- The attempts after the first. -/
  maxRetries : UInt32
  /-- The milliseconds between attempts. -/
  delay : Nat
deriving DecidableEq, Repr

namespace RetrySchedule

/-- The schedule of a policy, if it is enabled. -/
def ofPolicy? (policy : Option RetryPolicy) (config : Config) : Option RetrySchedule :=
  match policy with
  | some p =>
    if p.enabled then
      some ⟨p.maxRetries.getD (UInt32.ofNat config.maxRetries),
        (p.delay.map UInt64.toNat).getD config.retryDelay⟩
    else none
  | none => none

/-- Another attempt is made after a failure when some retries are done already. -/
def allows (s : RetrySchedule) (done : Nat) (error : StepError) : Bool :=
  error.isRetryable && done < s.maxRetries.toNat

end RetrySchedule

end Workflow
