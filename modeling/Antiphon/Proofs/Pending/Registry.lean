import Antiphon.Proofs.Pending.Unwatched

/-!
# A queue and what is known of it

Whoever works a queue can keep two lists beside it: the slots that were given a place, in the order
of their places, and the outcomes that were issued, in the order of their issue. Nothing more is
needed to tell the queue. The outcome of a slot is the one at its place; a slot behind the outcomes
waits, or learns that the connection is gone if the queue was dropped.

`Registry` is the queue with these two lists. An outcome enters the second list when the queue has
taken it: by the answer of a single completion, and by what the reason of a drain was heard to say.
A slot is made elsewhere, or by the queue itself, and can be given one place only; `loose` are those
that have none yet.

`Kept` is the invariant. A single completion moves the border between the two kinds of slots by one
place, and everything else that completes slots is a number of single completions (`settleAll`).
-/

namespace Antiphon

namespace PendingQueue

/-- What a reason says when it is asked a number of times, and where it stands then. -/
def consult {σ : Type} (reason : σ → LinkError × σ) : Nat → σ → List LinkError × σ
  | 0, state => ([], state)
  | calls + 1, state =>
    let (errors, last) := consult reason calls (reason state).2
    ((reason state).1 :: errors, last)

/-- A reason that notes what it says. -/
def noting {σ : Type} (reason : σ → LinkError × σ) :
    σ × List LinkError → LinkError × (σ × List LinkError)
  | (state, said) => ((reason state).1, ((reason state).2, said ++ [(reason state).1]))

/-- A reason has an answer every time it is asked. -/
theorem length_consult {σ : Type} (reason : σ → LinkError × σ) (calls : Nat) (state : σ) :
    (consult reason calls state).1.length = calls := by
  induction calls generalizing state with
  | zero => rfl
  | succ calls inductionHypothesis => exact congrArg (· + 1) (inductionHypothesis _)

/-- Noting changes nothing about a reason. -/
theorem consult_noting {σ : Type} (reason : σ → LinkError × σ) (calls : Nat) (state : σ)
    (said : List LinkError) :
    consult (noting reason) calls (state, said) =
      ((consult reason calls state).1,
        ((consult reason calls state).2, said ++ (consult reason calls state).1)) := by
  induction calls generalizing state said with
  | zero => simp [consult]
  | succ calls inductionHypothesis => simp [consult, noting, inductionHypothesis]

/-- Failing tickets asks the reason once for each of them, in their order. -/
theorem failAll_eq {σ : Type} (reason : σ → LinkError × σ) (tickets : List Ticket) (state : σ)
    (queue : PendingQueue) :
    failAll reason tickets state queue =
      ((consult reason tickets.length state).2,
        queue.settleAll
          (tickets.zip ((consult reason tickets.length state).1.map Except.error))) := by
  induction tickets generalizing state queue with
  | nil => rfl
  | cons ticket rest inductionHypothesis =>
    exact inductionHypothesis (reason state).2 (queue.settle ticket (.error (reason state).1))

/-- So does a drain with the tickets that wait. -/
theorem drain_eq {σ : Type} (queue : PendingQueue) (reason : σ → LinkError × σ) (state : σ) :
    queue.drain reason state =
      (queue.size, (consult reason queue.size state).2,
        ({ queue with waiting := [] } : PendingQueue).settleAll
          (queue.waiting.zip ((consult reason queue.size state).1.map Except.error))) := by
  rw [drain, failAll_eq]
  rfl

/-- What can be done with a queue, with slots that are made elsewhere, and by those who wait. -/
inductive Operation
  /-- A new slot in the last place. -/
  | enqueue
  /-- A new slot without a place. -/
  | create
  /-- A slot without a place is given the last one. -/
  | push (ticket : Ticket)
  | resolve (value : Json)
  | reject (reason : LinkError)
  | drain {σ : Type} (reason : σ → LinkError × σ) (state : σ)
  /-- A caller stops waiting. -/
  | abandon (ticket : Ticket)
  /-- The queue is dropped. -/
  | discard

namespace Operation

/-- Whether an operation is somebody who stops awaiting an outcome. -/
def isAbandon : Operation → Bool
  | .abandon _ => true
  | _ => false

/-- The outcome that an operation has for the oldest slot. -/
def single? : Operation → Option Outcome
  | .resolve value => some (.ok value)
  | .reject reason => some (.error reason)
  | _ => none

end Operation

/-- What an operation returns. -/
inductive Answer
  | slot (ticket : Ticket)
  | completed
  | refused (error : LinkError)
  /-- How many slots were failed, and how often the reason was asked. -/
  | drained (count calls : Nat)
deriving DecidableEq

/-- A queue, and the lists that are kept beside it. -/
structure Registry where
  queue : PendingQueue
  /-- Slots without a place. -/
  loose : List Ticket
  /-- Slots in the order of their places. -/
  slots : List Ticket
  /-- Outcomes in the order of their issue. -/
  outcomes : List Outcome
  /-- The queue was dropped, and nobody can do anything with it any more. -/
  discarded : Bool

namespace Registry

/-- Nothing has been done. -/
def new : Registry := ⟨.empty, [], [], [], false⟩

/-- Notes what the completion of one slot has come to. -/
def note (registry : Registry) (outcome : Outcome)
    (result : Except LinkError (Ticket × PendingQueue)) : Option Answer × Registry :=
  match result with
  | .ok (_, queue) =>
    (some .completed,
      { registry with queue := queue, outcomes := registry.outcomes ++ [outcome] })
  | .error error => (some (.refused error), registry)

/-- One operation and what it returns. What cannot be done changes nothing: a slot is given a place
once, and a queue that was dropped is out of reach. -/
def perform (registry : Registry) (operation : Operation) : Option Answer × Registry :=
  match operation, registry.discarded with
  | .create, _ =>
    let (ticket, queue) := registry.queue.issue
    (some (.slot ticket), { registry with queue := queue, loose := registry.loose ++ [ticket] })
  | .abandon ticket, _ => (none, { registry with queue := registry.queue.abandon ticket })
  | .enqueue, false =>
    let (ticket, queue) := registry.queue.enqueue
    (some (.slot ticket), { registry with queue := queue, slots := registry.slots ++ [ticket] })
  | .push ticket, false =>
    if ticket ∈ registry.loose then
      (none,
        { registry with
          queue := registry.queue.push ticket
          loose := registry.loose.erase ticket
          slots := registry.slots ++ [ticket] })
    else (none, registry)
  | .resolve value, false => registry.note (.ok value) (registry.queue.resolveOldest value)
  | .reject reason, false => registry.note (.error reason) (registry.queue.rejectOldest reason)
  | .drain reason state, false =>
    let (count, (_, said), queue) := registry.queue.drain (noting reason) (state, [])
    (some (.drained count said.length),
      { registry with queue := queue, outcomes := registry.outcomes ++ said.map .error })
  | .discard, false => (none, { registry with queue := registry.queue.discard, discarded := true })
  | _, true => (none, registry)

/-- Operations one after the other, and what they return. -/
def run (registry : Registry) : List Operation → List Answer × Registry
  | [] => ([], registry)
  | operation :: rest =>
    ((registry.perform operation).1.toList ++ ((registry.perform operation).2.run rest).1,
      ((registry.perform operation).2.run rest).2)

/-- What the slot at a place has come to: the outcome at that place, or the news that the queue was
dropped. -/
def answer? (registry : Registry) (place : Nat) : Option Outcome :=
  registry.outcomes[place]?.or
    (if registry.discarded then some (.error .connectionClosed) else none)

/-- The lists tell the queue. -/
structure Kept (registry : Registry) : Prop where
  waiting : registry.queue.waiting =
    if registry.discarded then [] else registry.slots.drop registry.outcomes.length
  issued : registry.outcomes.length ≤ registry.slots.length
  distinct : (registry.slots ++ registry.loose).Nodup
  known : ∀ ticket ∈ registry.slots ++ registry.loose, ticket < registry.queue.replies.length
  settled : ∀ place ticket, registry.slots[place]? = some ticket →
    registry.queue.outcome? ticket = registry.answer? place
  unsettled : ∀ ticket ∈ registry.loose, registry.queue.outcome? ticket = none

namespace Kept

variable {registry : Registry}

/-- Until the queue is dropped those wait whose places have no outcome. -/
theorem waiting_of_serving (kept : registry.Kept) (serving : registry.discarded = false) :
    registry.queue.waiting = registry.slots.drop registry.outcomes.length := by
  rw [kept.waiting, serving]
  rfl

/-- The size is the number of slots less that of outcomes. -/
theorem size_add (kept : registry.Kept) (serving : registry.discarded = false) :
    registry.queue.size + registry.outcomes.length = registry.slots.length := by
  rw [size, kept.waiting_of_serving serving, List.length_drop]
  exact Nat.sub_add_cancel kept.issued

/-- The oldest slot takes the next outcome. -/
theorem settle (kept : registry.Kept) (serving : registry.discarded = false) {ticket : Ticket}
    {rest : List Ticket} (first : registry.queue.waiting = ticket :: rest) (outcome : Outcome) :
    Kept { registry with
      queue := ({ registry.queue with waiting := rest } : PendingQueue).settle ticket outcome
      outcomes := registry.outcomes ++ [outcome] } := by
  have behind : registry.slots.drop registry.outcomes.length = ticket :: rest :=
    (kept.waiting_of_serving serving).symm.trans first
  have here : registry.slots[registry.outcomes.length]? = some ticket := by
    have head := congrArg (fun slots : List Ticket => slots[0]?) behind
    simpa using head
  have inside : registry.outcomes.length < registry.slots.length :=
    (List.getElem?_eq_some_iff.mp here).1
  have later : registry.slots.drop (registry.outcomes.length + 1) = rest := by
    rw [← List.drop_drop, behind]
    rfl
  have present : ticket ∈ registry.slots := List.mem_of_getElem? here
  have bound : ticket < registry.queue.replies.length :=
    kept.known ticket (List.mem_append_left _ present)
  obtain ⟨once, _, apart⟩ := List.nodup_append.mp kept.distinct
  constructor
  · simp [serving, later]
  · simpa using Nat.succ_le_of_lt inside
  · exact kept.distinct
  · simpa using kept.known
  · intro place other found
    have before : registry.queue.outcome? other = registry.outcomes[place]? := by
      rw [kept.settled place other found, answer?, serving]
      simp
    rw [outcome?_settle]
    change (if other = ticket ∧ ticket < registry.queue.replies.length then
      (registry.queue.outcome? other).or (some outcome) else registry.queue.outcome? other) = _
    rw [before, answer?, serving]
    simp only [bound, and_true, Bool.false_eq_true, if_false, Option.or_none]
    by_cases same : other = ticket
    · -- No slot has two places, so this one is the place behind all outcomes so far.
      have equal : registry.outcomes.length = place :=
        (List.getElem?_inj inside once).mp (here.trans (same ▸ found.symm))
      simp [same, ← equal]
    · have unequal : place ≠ registry.outcomes.length := by
        rintro rfl
        exact same (Option.some.inj (found.symm.trans here))
      rw [if_neg same, List.getElem?_append]
      split
      · rfl
      · next outside =>
        rw [List.getElem?_eq_none (Nat.le_of_not_lt outside), List.getElem?_eq_none]
        simp only [List.length_singleton]
        omega
  · intro other waits
    rw [outcome?_settle, if_neg]
    · exact kept.unsettled other waits
    · rintro ⟨rfl, _⟩
      exact apart _ present _ waits rfl

/-- So do any number of slots, from the oldest on. The induction is over the completions. -/
theorem settleAll {completions : List (Ticket × Outcome)} {rest : List Ticket}
    (kept : registry.Kept) (serving : registry.discarded = false)
    (front : registry.queue.waiting = completions.map Prod.fst ++ rest) :
    Kept { registry with
      queue := ({ registry.queue with waiting := rest } : PendingQueue).settleAll completions
      outcomes := registry.outcomes ++ completions.map Prod.snd } := by
  induction completions generalizing registry with
  | nil =>
    have same : ({ registry.queue with waiting := rest } : PendingQueue) = registry.queue := by
      rw [← show registry.queue.waiting = rest from front]
    simpa [same] using kept
  | cons completion later inductionHypothesis =>
    have next := kept.settle serving front completion.2
    have all := inductionHypothesis next serving rfl
    simp only [List.append_assoc, List.singleton_append] at all
    exact all

/-- The lists of a new registry tell its queue. -/
theorem new : Registry.new.Kept where
  waiting := rfl
  issued := Nat.le_refl _
  distinct := List.nodup_nil
  known := by simp [Registry.new]
  settled := by simp [Registry.new]
  unsettled := by simp [Registry.new]

/-- A new slot is settled in no case. -/
theorem outcome?_fresh (queue : PendingQueue) : queue.outcome? queue.issue.1 = none := by
  simp [outcome?, PendingQueue.issue]

/-- A new slot without a place. -/
theorem create (kept : registry.Kept) :
    Kept { registry with
      queue := registry.queue.issue.2
      loose := registry.loose ++ [registry.queue.issue.1] } := by
  have fresh : registry.queue.issue.1 ∉ registry.slots ++ registry.loose :=
    fun there => Nat.lt_irrefl _ (kept.known _ there)
  refine ⟨kept.waiting, kept.issued, ?_, ?_, ?_, ?_⟩
  · rw [← List.append_assoc, List.nodup_append]
    refine ⟨kept.distinct, by simp, ?_⟩
    rintro ticket there _ last rfl
    exact fresh (List.mem_singleton.mp last ▸ there)
  · intro ticket there
    have more : (registry.queue.issue.2).replies.length = registry.queue.replies.length + 1 := by
      simp [PendingQueue.issue]
    rw [more]
    rw [← List.append_assoc, List.mem_append, List.mem_singleton] at there
    rcases there with earlier | rfl
    · exact Nat.lt_succ_of_lt (kept.known ticket earlier)
    · exact Nat.lt_succ_self _
  · intro place ticket found
    rw [outcome?_issue]
    exact kept.settled place ticket found
  · intro ticket there
    rw [outcome?_issue]
    rcases List.mem_append.mp there with earlier | last
    · exact kept.unsettled ticket earlier
    · rw [List.mem_singleton.mp last]
      exact outcome?_fresh registry.queue

/-- A slot without a place gets the last one. -/
theorem push (kept : registry.Kept) (serving : registry.discarded = false) {ticket : Ticket}
    (there : ticket ∈ registry.loose) :
    Kept { registry with
      queue := registry.queue.push ticket
      loose := registry.loose.erase ticket
      slots := registry.slots ++ [ticket] } := by
  have same : (registry.slots ++ registry.loose).Perm
      (registry.slots ++ [ticket] ++ registry.loose.erase ticket) := by
    rw [List.append_assoc]
    exact (List.perm_cons_erase there).append_left registry.slots
  refine ⟨?_, ?_, same.nodup_iff.mp kept.distinct, ?_, ?_, ?_⟩
  · simp [PendingQueue.push, kept.waiting_of_serving serving, serving,
      List.drop_append_of_le_length kept.issued]
  · simpa using Nat.le_succ_of_le kept.issued
  · exact fun other member => kept.known other (same.mem_iff.mpr member)
  · intro place other found
    rw [List.getElem?_append] at found
    split at found
    · exact kept.settled place other found
    · next behind =>
      obtain rfl : ticket = other := by
        cases left : place - registry.slots.length <;> simp_all
      have outside : registry.outcomes.length ≤ place :=
        Nat.le_trans kept.issued (Nat.le_of_not_lt behind)
      rw [answer?, serving, List.getElem?_eq_none outside]
      exact kept.unsettled ticket there
  · exact fun other member => kept.unsettled other (List.erase_subset member)

/-- A new slot gets the last place at once. -/
theorem enqueue (kept : registry.Kept) (serving : registry.discarded = false) :
    Kept { registry with
      queue := registry.queue.enqueue.2
      slots := registry.slots ++ [registry.queue.enqueue.1] } := by
  have fresh : registry.queue.issue.1 ∉ registry.loose := fun there =>
    Nat.lt_irrefl _ (kept.known _ (List.mem_append_right _ there))
  have placed := kept.create.push serving (List.mem_append_right _ (List.mem_singleton_self _))
  have rest : (registry.loose ++ [registry.queue.issue.1]).erase registry.queue.issue.1 =
      registry.loose := by
    rw [List.erase_append_right _ fresh]
    simp
  simp only [rest] at placed
  exact placed

/-- The lists tell the queue whoever stops awaiting an outcome. -/
theorem abandon (kept : registry.Kept) (ticket : Ticket) :
    Kept { registry with queue := registry.queue.abandon ticket } where
  waiting := kept.waiting
  issued := kept.issued
  distinct := kept.distinct
  known := by simpa [PendingQueue.abandon] using kept.known
  settled place other found := by
    rw [outcome?_abandon]
    exact kept.settled place other found
  unsettled other there := by
    rw [outcome?_abandon]
    exact kept.unsettled other there

/-- The completion of one slot, if there is one. -/
theorem note (kept : registry.Kept) (serving : registry.discarded = false) (outcome : Outcome) :
    (registry.note outcome (registry.queue.completeOldest outcome)).2.Kept := by
  unfold PendingQueue.completeOldest
  cases first : registry.queue.waiting with
  | nil => exact kept
  | cons ticket rest => exact kept.settle serving first outcome

/-- A drain completes all slots that wait. -/
theorem drain (kept : registry.Kept) (serving : registry.discarded = false)
    (errors : List LinkError) (enough : errors.length = registry.queue.size) :
    Kept { registry with
      queue := ({ registry.queue with waiting := [] } : PendingQueue).settleAll
        (registry.queue.waiting.zip (errors.map Except.error))
      outcomes := registry.outcomes ++ errors.map Except.error } := by
  have counted : registry.queue.waiting.length =
      (errors.map Except.error : List Outcome).length := by
    rw [List.length_map, enough, size]
  have front : registry.queue.waiting =
      (registry.queue.waiting.zip (errors.map Except.error : List Outcome)).map Prod.fst ++ [] := by
    rw [List.map_fst_zip (Nat.le_of_eq counted), List.append_nil]
  have all := kept.settleAll serving front
  rwa [List.map_snd_zip (Nat.le_of_eq counted.symm)] at all

/-- A queue that is dropped fails what still waits, for a reason that nobody has issued. -/
theorem discard (kept : registry.Kept) (serving : registry.discarded = false) :
    Kept { registry with queue := registry.queue.discard, discarded := true } := by
  have front : registry.queue.waiting = (registry.queue.waiting.map fun ticket =>
      (ticket, (.error .connectionClosed : Outcome))).map Prod.fst ++ [] := by
    simp [Function.comp_def]
  have all := kept.settleAll serving front
  rw [PendingQueue.discard, drainWith_eq]
  refine ⟨by simp, kept.issued, kept.distinct, all.known, ?_, all.unsettled⟩
  intro place ticket found
  rw [all.settled place ticket found, answer?, answer?, List.getElem?_append]
  have total := kept.size_add serving
  have inside : place < registry.slots.length := (List.getElem?_eq_some_iff.mp found).1
  split
  · next issued => simp [List.getElem?_eq_getElem issued]
  · next behind =>
    have waits : place - registry.outcomes.length < registry.queue.waiting.length := by
      rw [size] at total
      omega
    simp [serving, List.getElem?_eq_getElem waits, List.getElem?_eq_none (Nat.le_of_not_lt behind)]

/-- Every operation keeps the lists true. -/
theorem perform (kept : registry.Kept) (operation : Operation) :
    (registry.perform operation).2.Kept := by
  unfold Registry.perform
  split
  · exact kept.create
  · next ticket => exact kept.abandon ticket
  · next serving => exact kept.enqueue serving
  · next ticket serving =>
    split
    · next there => exact kept.push serving there
    · exact kept
  · next value serving => exact kept.note serving (.ok value)
  · next reason serving => exact kept.note serving (.error reason)
  · next reason state serving =>
    rw [drain_eq, consult_noting]
    exact kept.drain serving _ (length_consult _ _ _)
  · next serving => exact kept.discard serving
  · exact kept

/-- The lists tell the queue after any operations. -/
theorem run (kept : registry.Kept) (operations : List Operation) :
    (registry.run operations).2.Kept := by
  induction operations generalizing registry with
  | nil => exact kept
  | cons operation rest inductionHypothesis => exact inductionHypothesis (kept.perform operation)

end Kept

/-! ## Single operations -/

variable {registry : Registry}

/-- A single completion is what the queue makes of it. -/
theorem perform_eq_note (registry : Registry) {operation : Operation} {outcome : Outcome}
    (serving : registry.discarded = false) (single : operation.single? = some outcome) :
    registry.perform operation =
      registry.note outcome (registry.queue.completeOldest outcome) := by
  cases operation <;> cases single <;> simp only [perform, serving] <;> rfl

/-- A completion is refused if and only if no slot waits, and then changes nothing. -/
theorem perform_of_single {operation : Operation} {outcome : Outcome}
    (serving : registry.discarded = false) (single : operation.single? = some outcome) :
    (registry.queue.size = 0 →
        registry.perform operation = (some (.refused .unsolicited), registry)) ∧
      (registry.queue.size ≠ 0 → (registry.perform operation).1 = some .completed ∧
        (registry.perform operation).2.outcomes = registry.outcomes ++ [outcome]) := by
  rw [registry.perform_eq_note serving single, PendingQueue.completeOldest]
  cases first : registry.queue.waiting with
  | nil => exact ⟨fun _ => rfl, fun filled => absurd (congrArg List.length first) filled⟩
  | cons ticket rest =>
    refine ⟨fun empty => ?_, fun _ => ⟨rfl, rfl⟩⟩
    rw [size, first] at empty
    cases empty

/-- A drain asks its reason as often as slots wait, and says so. -/
theorem perform_drain (serving : registry.discarded = false) {σ : Type}
    (reason : σ → LinkError × σ) (state : σ) :
    (registry.perform (.drain reason state)).1 =
        some (.drained registry.queue.size registry.queue.size) ∧
      (registry.perform (.drain reason state)).2.outcomes =
        registry.outcomes ++ (consult reason registry.queue.size state).1.map .error ∧
      (registry.perform (.drain reason state)).2.queue.waiting = [] ∧
      (registry.perform (.drain reason state)).2.discarded = false := by
  simp only [perform, serving, drain_eq, consult_noting, List.nil_append, length_consult,
    waiting_settleAll, and_self]

/-- A drain that finds nothing waiting changes nothing. -/
theorem perform_drain_of_empty (serving : registry.discarded = false)
    (empty : registry.queue.waiting = []) {σ : Type} (reason : σ → LinkError × σ) (state : σ) :
    registry.perform (.drain reason state) = (some (.drained 0 0), registry) := by
  have none : registry.queue.size = 0 := by rw [size, empty]; rfl
  have same : ({ registry.queue with waiting := [] } : PendingQueue) = registry.queue := by
    rw [← empty]
  simp only [perform, serving, drain_eq, consult_noting, none, consult, empty, same]
  simp [← serving]

/-! ## Two histories -/

/-- The registry as if nobody awaited an outcome. -/
def unwatched (registry : Registry) : Registry :=
  { registry with queue := registry.queue.unwatched }

/-- An operation returns the same, and leaves the same, whoever has given up. -/
theorem perform_unwatched (registry : Registry) (operation : Operation) :
    (registry.unwatched.perform operation).1 = (registry.perform operation).1 ∧
      (registry.unwatched.perform operation).2.unwatched =
        (registry.perform operation).2.unwatched := by
  have noted (outcome : Outcome) :
      (registry.unwatched.note outcome (registry.queue.unwatched.completeOldest outcome)).1 =
          (registry.note outcome (registry.queue.completeOldest outcome)).1 ∧
        (registry.unwatched.note outcome
            (registry.queue.unwatched.completeOldest outcome)).2.unwatched =
          (registry.note outcome (registry.queue.completeOldest outcome)).2.unwatched := by
    rw [completeOldest_unwatched]
    cases registry.queue.completeOldest outcome with
    | error error => simp [note, unwatched, Except.map]
    | ok done => simp [note, unwatched, Except.map]
  have whole : registry.unwatched.unwatched = registry.unwatched := by simp [unwatched]
  cases operation with
  | create => simp [perform, unwatched, unwatched_issue]
  | abandon ticket => simp [perform, unwatched]
  | enqueue =>
    cases serving : registry.discarded <;>
      simp [perform, unwatched, serving, enqueue, unwatched_issue, unwatched_push]
  | push ticket =>
    cases serving : registry.discarded <;> by_cases there : ticket ∈ registry.loose <;>
      simp [perform, unwatched, serving, there, unwatched_push]
  | resolve value =>
    cases serving : registry.discarded with
    | false =>
      rw [registry.perform_eq_note serving rfl, registry.unwatched.perform_eq_note serving rfl]
      exact noted (.ok value)
    | true => simp [perform, unwatched, serving]
  | reject reason =>
    cases serving : registry.discarded with
    | false =>
      rw [registry.perform_eq_note serving rfl, registry.unwatched.perform_eq_note serving rfl]
      exact noted (.error reason)
    | true => simp [perform, unwatched, serving]
  | drain reason state =>
    cases serving : registry.discarded <;>
      simp [perform, unwatched, serving, drain_unwatched]
  | discard =>
    cases serving : registry.discarded <;>
      simp [perform, unwatched, serving, discard_unwatched]

/-- Who gives up, and when, makes no difference to what is returned and to what becomes of the
slots. -/
theorem run_of_unwatched {one other : Registry} (alike : one.unwatched = other.unwatched)
    (operations : List Operation) :
    (one.run operations).1 = (other.run (operations.filter fun operation =>
        !operation.isAbandon)).1 ∧
      (one.run operations).2.unwatched = (other.run (operations.filter fun operation =>
        !operation.isAbandon)).2.unwatched := by
  induction operations generalizing one other with
  | nil => exact ⟨rfl, alike⟩
  | cons operation rest inductionHypothesis =>
    cases gone : operation.isAbandon with
    | true =>
      cases operation with
      | abandon ticket =>
        rw [List.filter_cons_of_neg (by simp [gone])]
        refine inductionHypothesis ?_
        rw [← alike]
        simp [perform, unwatched]
      | _ => cases gone
    | false =>
      rw [List.filter_cons_of_pos (by simp [gone])]
      obtain ⟨returned, left⟩ := one.perform_unwatched operation
      obtain ⟨returned', left'⟩ := other.perform_unwatched operation
      rw [alike] at returned left
      obtain ⟨more, last⟩ := inductionHypothesis (left.symm.trans left')
      simp only [run, ← returned, ← returned', more, last, and_self]

/-- What was issued stays, and so do the places. -/
theorem perform_prefix (registry : Registry) (operation : Operation) :
    registry.slots <+: (registry.perform operation).2.slots ∧
      registry.outcomes <+: (registry.perform operation).2.outcomes := by
  have noted (outcome : Outcome) (result : Except LinkError (Ticket × PendingQueue)) :
      registry.slots <+: (registry.note outcome result).2.slots ∧
        registry.outcomes <+: (registry.note outcome result).2.outcomes := by
    cases result with
    | error error => exact ⟨List.prefix_refl _, List.prefix_refl _⟩
    | ok done => exact ⟨List.prefix_refl _, List.prefix_append _ _⟩
  unfold perform
  split
  · exact ⟨List.prefix_refl _, List.prefix_refl _⟩
  · exact ⟨List.prefix_refl _, List.prefix_refl _⟩
  · exact ⟨List.prefix_append _ _, List.prefix_refl _⟩
  · split
    · exact ⟨List.prefix_append _ _, List.prefix_refl _⟩
    · exact ⟨List.prefix_refl _, List.prefix_refl _⟩
  · exact noted _ _
  · exact noted _ _
  · exact ⟨List.prefix_refl _, List.prefix_append _ _⟩
  · exact ⟨List.prefix_refl _, List.prefix_refl _⟩
  · exact ⟨List.prefix_refl _, List.prefix_refl _⟩

/-- Places and outcomes are kept for good. -/
theorem run_prefix (registry : Registry) (operations : List Operation) :
    registry.slots <+: (registry.run operations).2.slots ∧
      registry.outcomes <+: (registry.run operations).2.outcomes := by
  induction operations generalizing registry with
  | nil => exact ⟨List.prefix_refl _, List.prefix_refl _⟩
  | cons operation rest inductionHypothesis =>
    obtain ⟨slots, outcomes⟩ := registry.perform_prefix operation
    obtain ⟨slots', outcomes'⟩ := inductionHypothesis (registry.perform operation).2
    exact ⟨slots.trans slots', outcomes.trans outcomes'⟩

end Registry

/-- A queue is told by a register of slots and outcomes. Take any operations, in any order. The slot
at a place has come to the outcome at that place, if that many were issued; behind them, it has
learnt that the connection is gone if the queue was dropped, and waits otherwise. No slot has two
places, and neither list is ever taken back, so a slot is completed once.

As long as the queue is there, its size is the number of slots less that of outcomes. A single
completion is refused if and only if the size is zero, and then changes nothing. A drain asks its
reason as often as the size says, issues what it hears, returns that number, and leaves nothing for
another drain. Callers that give up, whoever and whenever, change nothing that is returned, and
nothing that the slots come to. -/
theorem registry_exact (operations : List Operation) :
    let registry := (Registry.new.run operations).2
    registry.slots.Nodup ∧
    (∀ (place : Nat) (ticket : Ticket), registry.slots[place]? = some ticket →
      registry.queue.outcome? ticket = registry.outcomes[place]?.or
        (if registry.discarded then some (.error .connectionClosed) else none)) ∧
    (∀ more, registry.slots <+: (registry.run more).2.slots ∧
      registry.outcomes <+: (registry.run more).2.outcomes) ∧
    (registry.discarded = false →
      registry.queue.size + registry.outcomes.length = registry.slots.length ∧
      (∀ operation outcome, operation.single? = some outcome →
        (registry.queue.size = 0 →
          registry.perform operation = (some (.refused .unsolicited), registry)) ∧
        (registry.queue.size ≠ 0 → (registry.perform operation).1 = some .completed ∧
          (registry.perform operation).2.outcomes = registry.outcomes ++ [outcome])) ∧
      ∀ {σ : Type} (reason : σ → LinkError × σ) (state : σ),
        let drained := registry.perform (.drain reason state)
        (registry.queue.drain reason state).2.1 = (consult reason registry.queue.size state).2 ∧
        drained.1 = some (.drained registry.queue.size registry.queue.size) ∧
        drained.2.outcomes =
          registry.outcomes ++ (consult reason registry.queue.size state).1.map .error ∧
        drained.2.queue.size = 0 ∧
        ∀ {τ : Type} (again : τ → LinkError × τ) (other : τ),
          drained.2.perform (.drain again other) = (some (.drained 0 0), drained.2)) ∧
    ∀ others : List Operation,
      (others.filter fun operation => !operation.isAbandon) =
        (operations.filter fun operation => !operation.isAbandon) →
      (Registry.new.run others).1 = (Registry.new.run operations).1 ∧
      (Registry.new.run others).2.slots = registry.slots ∧
      (Registry.new.run others).2.outcomes = registry.outcomes ∧
      (Registry.new.run others).2.queue.size = registry.queue.size ∧
      ∀ ticket, (Registry.new.run others).2.queue.outcome? ticket =
        registry.queue.outcome? ticket := by
  intro registry
  have kept : registry.Kept := Registry.Kept.new.run operations
  refine ⟨(List.nodup_append.mp kept.distinct).1, kept.settled, registry.run_prefix, fun serving =>
    ⟨kept.size_add serving, fun operation outcome => Registry.perform_of_single serving, ?_⟩, ?_⟩
  · intro σ reason state
    obtain ⟨returned, issued, empty, still⟩ := Registry.perform_drain serving reason state
    refine ⟨by rw [drain_eq], returned, issued, congrArg List.length empty, ?_⟩
    exact fun again other => Registry.perform_drain_of_empty still empty again other
  · intro others same
    obtain ⟨returned, left⟩ := Registry.run_of_unwatched (rfl : Registry.new.unwatched = _) others
    obtain ⟨returned', left'⟩ :=
      Registry.run_of_unwatched (rfl : Registry.new.unwatched = _) operations
    rw [same] at returned left
    have alike : (Registry.new.run others).2.unwatched = registry.unwatched :=
      left.trans left'.symm
    have slots : (Registry.new.run others).2.unwatched.slots = registry.unwatched.slots :=
      congrArg Registry.slots alike
    have outcomes : (Registry.new.run others).2.unwatched.outcomes = registry.unwatched.outcomes :=
      congrArg Registry.outcomes alike
    have queue : (Registry.new.run others).2.queue.unwatched = registry.queue.unwatched :=
      congrArg Registry.queue alike
    have waiting : (Registry.new.run others).2.queue.unwatched.waiting =
        registry.queue.unwatched.waiting := congrArg PendingQueue.waiting queue
    refine ⟨returned.trans returned'.symm, slots, outcomes, ?_, fun ticket => ?_⟩
    · exact congrArg List.length waiting
    · rw [← outcome?_unwatched, queue, outcome?_unwatched]

/-- A slot that is given its place behind a younger one, a caller that gives up, a drain, and a
queue that is dropped while a slot waits. -/
theorem registry_exact_of_late_place :
    ∃ (operations : List Operation) (registry : Registry),
      operations = [.create, .enqueue, .push 0, .abandon 1, .resolve .null,
        .drain (fun calls : Nat => (.connection "over", calls + 1)) 0, .reject .unsolicited,
        .enqueue, .discard] ∧
      registry = (Registry.new.run operations).2 ∧
      registry.slots = [1, 0, 2] ∧
      (Registry.new.run operations).1 = [.slot 0, .slot 1, .completed, .drained 1 1,
        .refused .unsolicited, .slot 2] ∧
      registry.queue.outcome? 1 = some (.ok .null) ∧
      registry.queue.outcome? 0 = some (.error (.connection "over")) ∧
      registry.queue.outcome? 2 = some (.error .connectionClosed) := by
  let operations : List Operation := [.create, .enqueue, .push 0, .abandon 1, .resolve .null,
    .drain (fun calls : Nat => (.connection "over", calls + 1)) 0, .reject .unsolicited, .enqueue,
    .discard]
  obtain ⟨_, settled, _⟩ := registry_exact operations
  exact ⟨operations, _, rfl, rfl, rfl, by decide, settled 0 1 rfl, settled 1 0 rfl,
    settled 2 2 rfl⟩

end PendingQueue

end Antiphon
