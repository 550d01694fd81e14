import SessionSync.Proofs.World.Course

/-!
# Backends with a log of messages

A backend keeps a log of messages for every session.  It answers a call for messages by a
page of the log as it then is, and by itself it only appends to the log.
-/

set_option autoImplicit false

namespace SessionSync

variable {β : Type}

/-- A backend whose state is the log of all sessions there are; they are active. -/
def journal : Host (List Message) := fun logged call =>
  (logged,
    { outcome := match call with
        | .fetchSession sessionId | .startSession sessionId =>
            .ok ⟨sessionId, "", .active, .default, 0, none, none, none⟩
        | .fetchMessages _ limit offset =>
            .ok ⟨(logged.drop offset).take limit, logged.length,
              decide (offset + limit < logged.length)⟩
        | .listSessions => .ok []
      held := false })

end SessionSync
