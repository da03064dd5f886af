import Antiphon.Proofs.Pending.Line

/-!
# Who still waits

A caller that stops waiting leaves a mark in its reply and nothing else. `unwatched` is a queue with
every reply marked so. Two queues that are the same under it differ in nobody but those who gave up:
the same requests wait in the same order, and every request has come to the same.
-/

namespace Antiphon

namespace PendingQueue

/-- The queue as if nobody awaited a response. -/
def unwatched (queue : PendingQueue) : PendingQueue :=
  { queue with replies := queue.replies.map fun reply => { reply with awaited := false } }

variable (queue : PendingQueue)

/-- To stop watching a queue twice is to stop watching it once. -/
@[simp] theorem unwatched_unwatched : queue.unwatched.unwatched = queue.unwatched := by
  simp [unwatched, Function.comp_def]

/-- Those in line stay there, watched or not. -/
@[simp] theorem waiting_unwatched : queue.unwatched.waiting = queue.waiting := rfl

/-- An outcome is there, watched or not. -/
@[simp] theorem outcome?_unwatched (ticket : Ticket) :
    queue.unwatched.outcome? ticket = queue.outcome? ticket := by
  simp only [outcome?, unwatched, List.getElem?_map]
  cases queue.replies[ticket]? <;> rfl

/-- A request is settled alike, watched or not. -/
theorem unwatched_settle (ticket : Ticket) (outcome : Outcome) :
    (queue.settle ticket outcome).unwatched = queue.unwatched.settle ticket outcome := by
  simp only [settle, unwatched, PendingQueue.mk.injEq, and_true]
  apply List.ext_getElem?
  intro place
  simp only [List.getElem?_map, List.getElem?_modify]
  cases queue.replies[place]? with
  | none => rfl
  | some reply => by_cases same : ticket = place <;> simp [same, Reply.settle]

/-- Requests are settled alike, watched or not. -/
theorem unwatched_settleAll (completions : List (Ticket × Outcome)) :
    (queue.settleAll completions).unwatched = queue.unwatched.settleAll completions := by
  induction completions generalizing queue with
  | nil => rfl
  | cons completion rest inductionHypothesis =>
    rw [settleAll_cons, inductionHypothesis, unwatched_settle, settleAll_cons]

/-- Giving up on a request is forgotten with the rest. -/
@[simp] theorem unwatched_abandon (ticket : Ticket) :
    (queue.abandon ticket).unwatched = queue.unwatched := by
  simp only [abandon, unwatched, PendingQueue.mk.injEq, and_true]
  apply List.ext_getElem?
  intro place
  simp only [List.getElem?_map, List.getElem?_modify]
  cases queue.replies[place]? with
  | none => rfl
  | some reply => by_cases same : ticket = place <;> simp [same]

/-- A ticket is issued alike, whether or not the others are watched. -/
theorem unwatched_issue :
    queue.unwatched.issue.1 = queue.issue.1 ∧
      queue.unwatched.issue.2.unwatched = queue.issue.2.unwatched := by
  simp [issue, unwatched]

/-- A request is put in line alike, watched or not. -/
theorem unwatched_push (ticket : Ticket) :
    (queue.push ticket).unwatched = queue.unwatched.push ticket := rfl

/-- The oldest request is completed alike, watched or not. -/
theorem completeOldest_unwatched (outcome : Outcome) :
    queue.unwatched.completeOldest outcome =
      (queue.completeOldest outcome).map fun done => (done.1, done.2.unwatched) := by
  rw [completeOldest, completeOldest, waiting_unwatched]
  cases queue.waiting with
  | nil => rfl
  | cons ticket rest =>
    have settled := unwatched_settle { queue with waiting := rest } ticket outcome
    rw [Except.map, settled]
    rfl

/-- Requests are failed alike, watched or not. -/
theorem failAll_unwatched {σ : Type} (reason : σ → LinkError × σ) (tickets : List Ticket)
    (state : σ) :
    failAll reason tickets state queue.unwatched =
      ((failAll reason tickets state queue).1,
        (failAll reason tickets state queue).2.unwatched) := by
  induction tickets generalizing queue state with
  | nil => rfl
  | cons ticket rest inductionHypothesis =>
    have next :=
      inductionHypothesis (queue.settle ticket (.error (reason state).1)) (reason state).2
    rw [unwatched_settle] at next
    exact next

/-- A queue is drained alike, watched or not. -/
theorem drain_unwatched {σ : Type} (reason : σ → LinkError × σ) (state : σ) :
    queue.unwatched.drain reason state =
      ((queue.drain reason state).1, (queue.drain reason state).2.1,
        (queue.drain reason state).2.2.unwatched) := by
  have failed := failAll_unwatched { queue with waiting := [] } reason queue.waiting state
  have none : ({ queue.unwatched with waiting := [] } : PendingQueue) =
      ({ queue with waiting := [] } : PendingQueue).unwatched := rfl
  rw [drain, waiting_unwatched, none, failed]
  rfl

/-- A queue is dropped alike, watched or not. -/
theorem discard_unwatched : queue.unwatched.discard = queue.discard.unwatched := by
  rw [discard, drainWith, drain_unwatched]
  rfl

end PendingQueue

end Antiphon
