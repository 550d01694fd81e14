import SessionSync.World.Basic

/-!
# A backend that follows a script

For every kind of call the script has a queue of answers, which are given one
after another.  An empty queue answers that there is nothing.
-/

set_option autoImplicit false

namespace SessionSync

/-- The kinds of calls that have a queue of their own. -/
inductive CallKind where
  | listSessions
  | getSession
  | startSession
  /-- The history of a session. -/
  | history
  /-- A page for a gap. -/
  | sync
  deriving DecidableEq, Repr

namespace CallKind

/-- The word for a kind of calls. -/
def name : CallKind → String
  | .listSessions => "list_sessions"
  | .getSession => "get_session"
  | .startSession => "start_session"
  | .history => "history"
  | .sync => "sync"

/-- All kinds of calls. -/
def all : List CallKind := [.listSessions, .getSession, .startSession, .history, .sync]

/-- The kind of a call; a page is part of the history when it has the size of
history pages. -/
def ofCall (historyLimit : Nat) : Backend.Call → CallKind
  | .listSessions => .listSessions
  | .fetchSession _ => .getSession
  | .startSession _ => .startSession
  | .fetchMessages _ limit _ => if limit = historyLimit then .history else .sync

end CallKind

/-- What an answer of the script says. -/
inductive ScriptedReply where
  | sessions (sessions : List Session)
  | session (session : Session)
  | page (page : Backend.Page)
  | error (status : Nat) (body : String)
  deriving DecidableEq, Repr

/-- An answer of the script; it may be held back. -/
structure ScriptedAnswer where
  reply : ScriptedReply
  held : Bool
  deriving DecidableEq, Repr

namespace ScriptedReply

/-- The answer as the outcome of a call; an answer for another kind of call
cannot be read. -/
def outcome : (call : Backend.Call) → ScriptedReply → Backend.Outcome call
  | _, .error status body => .error (.ofResponse status body)
  | .listSessions, .sessions listed => .ok listed
  | .fetchSession _, .session found | .startSession _, .session found => .ok found
  | .fetchMessages .., .page fetched => .ok fetched
  | _, _ => .error .unreadable

end ScriptedReply

/-- A script: the answers that are left for each kind of call. -/
structure Script where
  historyLimit : Nat
  queues : CallKind → List ScriptedAnswer

namespace Script

/-- Append answers to a queue. -/
def append (script : Script) (kind : CallKind) (answers : List ScriptedAnswer) : Script :=
  { script with
    queues := fun probe =>
      if probe = kind then script.queues kind ++ answers else script.queues probe }

/-- The answer where a queue is empty. -/
def nothing : ScriptedAnswer := { reply := .error 404 "", held := false }

/-- Answer a call from its queue. -/
def host : Host Script := fun script call =>
  let kind := CallKind.ofCall script.historyLimit call
  let queue := script.queues kind
  let answer := queue.head?.getD nothing
  let left : Script := { script with
    queues := fun probe => if probe = kind then queue.tail else script.queues probe }
  (left, { outcome := answer.reply.outcome call, held := answer.held })

end Script

end SessionSync
