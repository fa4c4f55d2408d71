import Replay.Http
import Replay.Http.Url

/-!
A peer with prepared responses, one per request. It knows no other address than its own, and can be
told to be out of reach.
-/

namespace Replay.Http

inductive Reply
  | answer (status : Nat) (body : String)
  /-- The connection is dropped after the request. -/
  | close
  | hang
  deriving DecidableEq, Repr

structure ScriptedPeer where
  reachable : Bool
  replies : List Reply
  requests : List (Method × String × Option Json.Value)
  deriving DecidableEq, Repr

namespace ScriptedPeer

def start (reachable : Bool) (replies : List Reply) : ScriptedPeer := ⟨reachable, replies, []⟩

def lastReply : Reply := .answer 200 "\x7b\"value\":null\x7d"

/-- A status that ends an exchange. Those below 200 only announce another one, but for the one that
changes the protocol. -/
def isFinal (status : Nat) : Bool := status == 101 || (200 ≤ status && status < 1000)

def hasBody (status : Nat) : Bool := status != 101 && status != 204 && status != 304

def sendingError (url : Url) : String := s!"error sending request for url ({url.text})"

def peer : Peer ScriptedPeer := fun request state =>
  match Url.read? request.url with
  | none => (.unreachable "builder error", state)
  | some url =>
    let url := url.withoutCredentials
    if !url.acceptsRequests then (.unreachable s!"builder error for url ({url.text})", state)
    else if !state.reachable then (.unreachable (sendingError url), state)
    else
      let rest := { state with replies := state.replies.drop 1 }
      let seen :=
        { rest with requests := state.requests ++ [(request.method, url.target, request.body)] }
      match state.replies.headD lastReply with
      | .answer status body =>
        if isFinal status then (.reply status (if hasBody status then body else ""), seen)
        else (.unreachable (sendingError url), seen)
      | .close => (.unreachable (sendingError url), seen)
      | .hang => (.timedOut (sendingError url), rest)

end ScriptedPeer

end Replay.Http
