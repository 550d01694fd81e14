import SessionSync.Failure

/-!
# Faults

Why a run of the program fails, and the sentences that it ends with.
-/

set_option autoImplicit false

namespace SessionSync.CommandLine

/-- Why the program fails. -/
inductive Fault where
  | failed (failure : Failure)
  /-- A session could not be opened. -/
  | notOpened (sessionId : String) (failure : Failure)
  /-- The session's channel has given up. -/
  | gaveUp
  /-- The session's channel took too long. -/
  | timedOut
  /-- A request for permission is neither allowed nor denied. -/
  | undecided
  deriving DecidableEq, Repr

namespace Fault

/-- A sentence with the one that tells its cause below it. -/
def because (sentence cause : String) : String :=
  sentence ++ "\n\nCaused by:\n" ++ "\n".intercalate ((cause.splitOn "\n").map ("    " ++ ·))

/-- The sentences for a fault. -/
def message : Fault → String
  | .failed failure => failure.message
  | .notOpened sessionId failure =>
      because s!"failed to open session {sessionId}" failure.message
  | .gaveUp => "session channel gave up reconnecting"
  | .timedOut => because "timed out waiting for the session channel" "deadline has elapsed"
  | .undecided => "pass exactly one of --allow or --deny"

end Fault

end SessionSync.CommandLine
