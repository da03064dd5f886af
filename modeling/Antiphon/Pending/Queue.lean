import Antiphon.LinkError

/-!
# Requests that await their response

The link carries no request numbers: the n-th response answers the n-th request. Every
request has a reply, which is settled at most once, and a ticket that names the reply.
Requests whose tickets are in `waiting` are answered strictly in that order.

A caller may stop waiting at any time. Its request keeps its place and still uses up its
response, so that later requests stay aligned; nothing but `awaited` tells the two cases
apart.
-/

namespace Antiphon

/-- What came of a request. -/
abbrev Outcome := Except LinkError Json

/-- Names a request by the order in which requests were issued. -/
abbrev Ticket := Nat

/-- Where the outcome of one request is left for its caller. -/
structure Reply where
  outcome : Option Outcome
  awaited : Bool

/-- A reply is settled once; a later outcome is without effect. -/
def Reply.settle (outcome : Outcome) (reply : Reply) : Reply :=
  { reply with outcome := reply.outcome.or (some outcome) }

/-- The requests issued so far and those that await a response, oldest first. -/
structure PendingQueue where
  replies : List Reply
  waiting : List Ticket

namespace PendingQueue

/-- No request has been issued. -/
def empty : PendingQueue := ⟨[], []⟩

/-- How many requests await a response. -/
def size (queue : PendingQueue) : Nat := queue.waiting.length

/-- Whether nobody waits. -/
def isEmpty (queue : PendingQueue) : Bool := queue.waiting.isEmpty

/-- A new request, which has no place in the order yet. -/
def issue (queue : PendingQueue) : Ticket × PendingQueue :=
  (queue.replies.length, { queue with replies := queue.replies ++ [⟨none, true⟩] })

/-- Gives a request the last place in the order. -/
def push (queue : PendingQueue) (ticket : Ticket) : PendingQueue :=
  { queue with waiting := queue.waiting ++ [ticket] }

/-- A new request in the last place. -/
def enqueue (queue : PendingQueue) : Ticket × PendingQueue :=
  let (ticket, queue) := queue.issue
  (ticket, queue.push ticket)

/-- Leaves an outcome for a request, wherever its place. -/
def settle (queue : PendingQueue) (ticket : Ticket) (outcome : Outcome) : PendingQueue :=
  { queue with replies := queue.replies.modify ticket (Reply.settle outcome) }

/-- Answers the oldest waiting request; says which it was, or that there was none. -/
def completeOldest (queue : PendingQueue) (outcome : Outcome) :
    Except LinkError (Ticket × PendingQueue) :=
  match queue.waiting with
  | [] => .error .unsolicited
  | ticket :: waiting => .ok (ticket, { queue with waiting := waiting }.settle ticket outcome)

/-- Answers the oldest waiting request with a response. -/
def resolveOldest (queue : PendingQueue) (value : Json) :
    Except LinkError (Ticket × PendingQueue) := queue.completeOldest (.ok value)

/-- Answers the oldest waiting request with a failure. -/
def rejectOldest (queue : PendingQueue) (reason : LinkError) :
    Except LinkError (Ticket × PendingQueue) := queue.completeOldest (.error reason)

/-- Fails tickets in order; each takes its reason from a state that moves on with it. -/
def failAll {σ : Type} (reason : σ → LinkError × σ) :
    List Ticket → σ → PendingQueue → σ × PendingQueue
  | [], state, queue => (state, queue)
  | ticket :: rest, state, queue =>
    let (error, state) := reason state
    failAll reason rest state (queue.settle ticket (.error error))

/-- Fails every waiting request; answers how many there were and where the reasons stand. -/
def drain {σ : Type} (queue : PendingQueue) (reason : σ → LinkError × σ) (state : σ) :
    Nat × σ × PendingQueue :=
  let (state, drained) := failAll reason queue.waiting state { queue with waiting := [] }
  (queue.size, state, drained)

/-- Fails every waiting request for one reason. -/
def drainWith (queue : PendingQueue) (reason : LinkError) : Nat × PendingQueue :=
  let (count, _, drained) := queue.drain (fun _ => (reason, ())) ()
  (count, drained)

/-- The order is given up: what still waits learns that the connection is gone. -/
def discard (queue : PendingQueue) : PendingQueue := (queue.drainWith .connectionClosed).2

/-- The caller stops waiting. -/
def abandon (queue : PendingQueue) (ticket : Ticket) : PendingQueue :=
  { queue with replies := queue.replies.modify ticket fun reply => { reply with awaited := false } }

/-- What came of a request, once something did. -/
def outcome? (queue : PendingQueue) (ticket : Ticket) : Option Outcome :=
  queue.replies[ticket]?.bind Reply.outcome

/-- Whether the caller still waits. -/
def isAwaited (queue : PendingQueue) (ticket : Ticket) : Bool :=
  match queue.replies[ticket]? with
  | some reply => reply.awaited
  | none => false

end PendingQueue

end Antiphon
