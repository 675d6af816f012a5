import EntityHub.Error.Basic
import EntityHub.Http.Redirect
/-!
# Peers

The hosts on the other side, seen as one: the turns they will take at the coming requests, and the
requests that have reached them. A request that is sent is sent on as long as replies redirect it,
though not for ever, and then the last reply counts. A peer that has no more turns knows nothing of
what it is asked for.
-/

namespace EntityHub.Http

/-- What a peer does at a request. -/
inductive Turn where
  /-- A reply, and the place that it names, as seen from the URL that was asked for. -/
  | reply (r : Reply) (place : Option Url := none)
  /-- The connection ends without a reply. -/
  | lost
deriving DecidableEq

namespace Turn

/-- What is heard of a request at this turn. -/
def heard : Turn → Except Fault Reply
  | reply r _ => .ok r
  | lost => .error .transport

/-- The request that is made of one at this turn, if it is redirected. -/
def redirected? (r : Request) : Turn → Option Request
  | reply answer (some place) =>
    if answer.status.redirects then some (r.redirected answer.status place) else none
  | _ => none

end Turn

/-- The other side. -/
structure Peer where
  /-- Requests get through. -/
  reachable : Bool := true
  /-- Requests over a secure connection get through as well. -/
  secure : Bool := true
  turns : List Turn := []
  /-- The requests that got through, in order. -/
  requests : List Request := []
deriving DecidableEq

namespace Peer

/-- The turn of a peer that has none left. -/
def notFound : Turn := .reply ⟨⟨404⟩, some []⟩

/-- Whether a request gets through. -/
def accepts (p : Peer) (r : Request) : Bool :=
  p.reachable && (r.url.scheme = "http" || (p.secure && r.url.scheme = "https"))

/-- Lets a request meet the next turn. One that does not get through is lost. -/
def meet (r : Request) : StateM Peer Turn := do
  let p ← get
  if p.accepts r then
    set { p with turns := p.turns.tail, requests := p.requests ++ [r] }
    return p.turns.headD notFound
  else return .lost

/-- Sends a request, and what redirections make of it, as long as that is at most `n` requests. -/
def sendWithin : Nat → Request → StateM Peer (Except Fault Reply)
  | 0, _ => return .error .transport
  | n + 1, r => do
    let turn ← meet r
    match turn.redirected? r with
    | some next => sendWithin n next
    | none => return turn.heard

/-- Sends a request. -/
def send (r : Request) : StateM Peer (Except Fault Reply) := sendWithin (maxRedirections + 1) r

end Peer

end EntityHub.Http
