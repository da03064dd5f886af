import Antiphon.Pending.Queue

/-!
# The line of requests

Requests are issued, and settled, in one and the same order. At any time the settled tickets
and those left to be settled, put one after the other, are all tickets from the first to the
latest. `InLine` says so, together with the fact that each reply holds the outcome that its
ticket was settled with. Issuing adds a ticket at the end; settling the first ticket that is
left moves the border by one; nothing else moves it.
-/

namespace Antiphon

namespace PendingQueue

/-- Settles requests one after the other. -/
def settleAll (queue : PendingQueue) (completions : List (Ticket × Outcome)) : PendingQueue :=
  completions.foldl (fun queue completion => queue.settle completion.1 completion.2) queue

/-- Settling nobody changes nothing. -/
@[simp] theorem settleAll_nil (queue : PendingQueue) : queue.settleAll [] = queue := rfl

/-- Requests are settled from the first on. -/
@[simp] theorem settleAll_cons (queue : PendingQueue) (completion : Ticket × Outcome)
    (rest : List (Ticket × Outcome)) :
    queue.settleAll (completion :: rest) =
      (queue.settle completion.1 completion.2).settleAll rest := rfl

/-- Requests can be settled in two parts. -/
@[simp] theorem settleAll_append (queue : PendingQueue) (front back : List (Ticket × Outcome)) :
    queue.settleAll (front ++ back) = (queue.settleAll front).settleAll back :=
  List.foldl_append

/-- Settling a request moves nobody in line. -/
@[simp] theorem waiting_settle (queue : PendingQueue) (ticket : Ticket) (outcome : Outcome) :
    (queue.settle ticket outcome).waiting = queue.waiting := rfl

/-- Settling requests moves nobody in line. -/
@[simp] theorem waiting_settleAll (queue : PendingQueue) (completions : List (Ticket × Outcome)) :
    (queue.settleAll completions).waiting = queue.waiting := by
  induction completions generalizing queue with
  | nil => rfl
  | cons completion rest inductionHypothesis => exact inductionHypothesis _

/-- Settling a request adds no reply. -/
@[simp] theorem length_replies_settle (queue : PendingQueue) (ticket : Ticket)
    (outcome : Outcome) : (queue.settle ticket outcome).replies.length = queue.replies.length :=
  List.length_modify _ _ _

/-- Settling requests adds no reply. -/
@[simp] theorem length_replies_settleAll (queue : PendingQueue)
    (completions : List (Ticket × Outcome)) :
    (queue.settleAll completions).replies.length = queue.replies.length := by
  induction completions generalizing queue with
  | nil => rfl
  | cons completion rest inductionHypothesis =>
    rw [settleAll_cons, inductionHypothesis, length_replies_settle]

/-- Settling leaves an outcome in the one reply, unless it holds one already. -/
theorem outcome?_settle (queue : PendingQueue) (ticket other : Ticket) (outcome : Outcome) :
    (queue.settle ticket outcome).outcome? other =
      if other = ticket ∧ ticket < queue.replies.length then
        (queue.outcome? other).or (some outcome)
      else queue.outcome? other := by
  simp only [outcome?, settle, List.getElem?_modify]
  by_cases same : ticket = other
  · subst same
    cases found : queue.replies[ticket]? with
    | none =>
      have outside : queue.replies.length ≤ ticket := List.getElem?_eq_none_iff.mp found
      simp [Nat.not_lt.mpr outside]
    | some reply =>
      have inside : ticket < queue.replies.length := (List.getElem?_eq_some_iff.mp found).1
      simp [inside, Reply.settle]
  · simp [same, Ne.symm same]

/-- A new request has come to nothing yet, and changes no other. -/
@[simp] theorem outcome?_issue (queue : PendingQueue) (ticket : Ticket) :
    queue.issue.2.outcome? ticket = queue.outcome? ticket := by
  rw [outcome?, outcome?, issue, List.getElem?_append]
  split
  · rfl
  · next outside =>
    rw [List.getElem?_eq_none (Nat.le_of_not_lt outside)]
    cases ticket - queue.replies.length <;> simp

/-- What came of a request does not depend on who waits for it. -/
@[simp] theorem outcome?_abandon (queue : PendingQueue) (ticket other : Ticket) :
    (queue.abandon ticket).outcome? other = queue.outcome? other := by
  rw [outcome?, outcome?, abandon, List.getElem?_modify]
  cases queue.replies[other]? with
  | none => rfl
  | some reply => by_cases same : ticket = other <;> simp [same]

/-- Failing tickets for one reason is settling each of them with it. -/
theorem failAll_const (reason : LinkError) (tickets : List Ticket) (queue : PendingQueue) :
    failAll (fun _ => (reason, ())) tickets () queue =
      ((), queue.settleAll (tickets.map fun ticket => (ticket, .error reason))) := by
  induction tickets generalizing queue with
  | nil => rfl
  | cons ticket rest inductionHypothesis => exact inductionHypothesis _

/-- A drain settles whatever waits and leaves nothing waiting. -/
theorem drainWith_eq (queue : PendingQueue) (reason : LinkError) :
    queue.drainWith reason =
      (queue.size, ({ queue with waiting := [] } : PendingQueue).settleAll
        (queue.waiting.map fun ticket => (ticket, .error reason))) := by
  rw [drainWith, drain, failAll_const]

/-- The settled tickets and those that are left are all tickets in the order of their issue,
and every reply holds what its ticket was settled with. -/
structure InLine (completions : List (Ticket × Outcome)) (left : List Ticket)
    (queue : PendingQueue) : Prop where
  order : completions.map Prod.fst ++ left = List.range queue.replies.length
  settled : ∀ ticket, queue.outcome? ticket = (completions[ticket]?).map Prod.snd

namespace InLine

variable {completions : List (Ticket × Outcome)} {left : List Ticket} {queue : PendingQueue}

/-- Nobody has been settled in an empty queue, and nobody is left. -/
theorem empty : InLine [] [] PendingQueue.empty where
  order := rfl
  settled := by simp [outcome?, PendingQueue.empty]

/-- The order in which requests wait has no part in it. -/
theorem rewait (line : InLine completions left queue) (waiting : List Ticket) :
    InLine completions left { queue with waiting := waiting } where
  order := line.order
  settled := line.settled

/-- Every ticket is either settled or left. -/
theorem length_add (line : InLine completions left queue) :
    completions.length + left.length = queue.replies.length := by
  simpa using congrArg List.length line.order

/-- No ticket is settled twice, and none that is left has been settled. -/
theorem nodup (line : InLine completions left queue) :
    (completions.map Prod.fst ++ left).Nodup := by
  rw [line.order]
  exact List.nodup_range

/-- Tickets are settled in the order of their numbers, which are their places. -/
theorem getElem?_completions (line : InLine completions left queue) {place : Nat}
    {completion : Ticket × Outcome} (found : completions[place]? = some completion) :
    completion.1 = place := by
  have inside : place < completions.length := (List.getElem?_eq_some_iff.mp found).1
  have bound : place < queue.replies.length := by
    have total := line.length_add
    omega
  have numbered : (completions.map Prod.fst ++ left)[place]? = some place := by
    rw [line.order, List.getElem?_range bound]
  rw [List.getElem?_append_left (by simpa using inside), List.getElem?_map, found] at numbered
  simpa using numbered

/-- The first ticket that is left is the number of settled ones. -/
theorem head_left {ticket : Ticket} {rest : List Ticket}
    (line : InLine completions (ticket :: rest) queue) :
    ticket = completions.length ∧ ticket < queue.replies.length := by
  have total := line.length_add
  have bound : completions.length < queue.replies.length := by
    simp only [List.length_cons] at total
    omega
  have numbered : (completions.map Prod.fst ++ ticket :: rest)[completions.length]? =
      some completions.length := by rw [line.order, List.getElem?_range bound]
  rw [List.getElem?_append_right (by simp)] at numbered
  have same : ticket = completions.length := by simpa using numbered
  exact ⟨same, same ▸ bound⟩

/-- Settling the first ticket that is left. -/
theorem settle {ticket : Ticket} {rest : List Ticket}
    (line : InLine completions (ticket :: rest) queue) (outcome : Outcome) :
    InLine (completions ++ [(ticket, outcome)]) rest (queue.settle ticket outcome) where
  order := by simpa using line.order
  settled := by
    obtain ⟨same, bound⟩ := line.head_left
    intro other
    rw [outcome?_settle, line.settled]
    by_cases here : other = ticket
    · subst here
      simp [bound, ← same]
    · rw [if_neg (fun both => here both.1)]
      by_cases before : other < completions.length
      · rw [List.getElem?_append_left before]
      · have behind : completions.length ≤ other := Nat.le_of_not_lt before
        have apart : completions.length ≠ other := fun equal => here (equal.symm.trans same.symm)
        have beyond : (completions ++ [(ticket, outcome)]).length ≤ other := by
          simp only [List.length_append, List.length_singleton]
          exact Nat.lt_of_le_of_ne behind apart
        rw [List.getElem?_eq_none behind, List.getElem?_eq_none beyond]

/-- Settling tickets from the front, one after the other. -/
theorem settleAll {more : List (Ticket × Outcome)}
    (line : InLine completions (more.map Prod.fst ++ left) queue) :
    InLine (completions ++ more) left (queue.settleAll more) := by
  induction more generalizing completions queue with
  | nil => simpa using line
  | cons completion rest inductionHypothesis =>
    obtain ⟨ticket, outcome⟩ := completion
    simpa using inductionHypothesis (line.settle outcome)

/-- A new request is the last that is left. -/
theorem issue (line : InLine completions left queue) :
    InLine completions (left ++ [queue.issue.1]) queue.issue.2 where
  order := by
    rw [← List.append_assoc, line.order]
    simp [PendingQueue.issue, List.range_succ]
  settled ticket := (queue.outcome?_issue ticket).trans (line.settled ticket)

/-- A caller that gives up changes nothing. -/
theorem abandon (line : InLine completions left queue) (ticket : Ticket) :
    InLine completions left (queue.abandon ticket) where
  order := by simpa [PendingQueue.abandon] using line.order
  settled other := (queue.outcome?_abandon ticket other).trans (line.settled other)

end InLine

end PendingQueue

end Antiphon
