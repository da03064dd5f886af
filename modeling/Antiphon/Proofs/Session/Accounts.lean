import Antiphon.Proofs.Session.Ledger

/-!
# The accounts of a session

Five facts hold of every ledger. The task and the published state agree. Requests are
completed in the order of their tickets, and those that are completed, that wait and that were
never taken are, in this order, all that were issued. The counter of pending requests is the
number of those that are left, and stays within the limit. Nothing is left when the task is
over. Every ticket belongs to one accepted send.

Each is kept by each kind of `Next`, so they hold of every session that a run can reach. So does
`Ordered`: the task takes requests in the order in which they were accepted.
-/

namespace Antiphon

/-- The published states that go with a state of the task. -/
def Task.Agrees : Task → Lifecycle → Prop
  | .held, state | .ready, state | .running, state => state = .connected
  | .closing _, state => state = .closing
  | .ended, state => state = .closed
  | .dropped, state => state = .connected ∨ state = .closing

/-- Whether the task has still to leave its loop. -/
def Task.isServing : Task → Bool
  | .held | .ready | .running => true
  | .closing _ | .ended | .dropped => false

namespace Ledger

open Session (untaken)

/-- The task does what the published state says. -/
def Phased (ledger : Ledger) : Prop := ledger.task.Agrees ledger.lifecycle

/-- Requests are completed in the order in which they were issued. -/
def Lined (ledger : Ledger) : Prop :=
  PendingQueue.InLine ledger.completions ledger.left ledger.pending

/-- The counter is the number of requests that are left. A task that was dropped left it as it
was. -/
def Counted (ledger : Ledger) : Prop :=
  (ledger.task ≠ .dropped → ledger.tally.pending.toNat = ledger.left.length) ∧
    ledger.tally.pending.toNat ≤ ledger.settings.maxInFlight.toNat

/-- A task that is over leaves no request behind. -/
def Spent (ledger : Ledger) : Prop :=
  ledger.task = .ended ∨ ledger.task = .dropped → ledger.left = []

/-- Tickets are given to accepted sends, in order. -/
def Issued (ledger : Ledger) : Prop :=
  ledger.requests.map Prod.fst = List.range ledger.pending.replies.length

/-- The end is published by the task that ends, and by nobody else. -/
def Told (ledger : Ledger) : Prop := .closed ∈ ledger.states → ledger.task = .ended

/-- All that is kept at any time. -/
structure Sound (ledger : Ledger) : Prop where
  phased : ledger.Phased
  lined : ledger.Lined
  counted : ledger.Counted
  spent : ledger.Spent
  issued : ledger.Issued
  told : ledger.Told

variable {ledger after : Ledger} {accepting : Bool}

/-- A request that is taken is left as it was before: it waits now. -/
theorem left_take {ticket : Ticket} {frame : Octets} {rest : List Command}
    (first : ledger.commands = .send ticket frame :: rest) (sent : UInt64) :
    (ledger.take ticket frame rest sent).left = ledger.left := by
  simp [left, take, PendingQueue.push, first]

/-- A request that is accepted is the last of those that are left. -/
theorem left_accept (frame : Octets) :
    (ledger.accept frame).left = ledger.left ++ [ledger.pending.issue.1] := by
  simp [left, accept, PendingQueue.issue]

/-- An ending leaves no request. -/
@[simp] theorem left_finish (reason : LinkError) : (ledger.finish reason).left = [] := by
  simp [left, finish, complete]

/-- Dropping the task leaves no request. -/
@[simp] theorem left_drop : ledger.drop.left = [] := by simp [left, drop, complete]

/-- Taking completed requests off a counter that has them. -/
theorem toNat_release (tally : Tally) {count : Nat} (enough : count ≤ tally.pending.toNat) :
    (tally.release count).pending.toNat = tally.pending.toNat - count := by
  have bound : tally.pending.toNat < 2 ^ 64 := tally.pending.toNat_lt
  have small : count.toUInt64.toNat = count :=
    UInt64.toNat_ofNat_of_lt' (Nat.lt_of_le_of_lt enough bound)
  have fits : count.toUInt64 ≤ tally.pending := by
    rw [UInt64.le_iff_toNat_le, small]
    exact enough
  rw [Tally.release, UInt64.toNat_sub_of_le _ _ fits, small]

namespace Sound

/-- A new session. -/
theorem new (settings : Settings) (outlet : Outlet) {task : Task}
    (fresh : task = .held ∨ task = .ready) : (Session.new settings outlet task).ledger.Sound where
  phased := by rcases fresh with rfl | rfl <;> rfl
  lined := .empty
  counted := ⟨fun _ => rfl, Nat.zero_le _⟩
  spent := fun _ => rfl
  issued := rfl
  told := by simp [Told, Session.ledger, Session.states, Session.new, gather, Event.published?]

/-- A new request takes the last reservation and the last place. -/
theorem accept (sound : ledger.Sound) (room : ledger.tally.pending < ledger.settings.maxInFlight)
    (live : ledger.task ≠ .ended ∧ ledger.task ≠ .dropped) (frame : Octets) :
    (ledger.accept frame).Sound where
  phased := sound.phased
  lined := by
    rw [Lined, left_accept]
    exact PendingQueue.InLine.issue sound.lined
  counted := by
    have below : ledger.tally.pending.toNat < ledger.settings.maxInFlight.toNat :=
      UInt64.lt_iff_toNat_lt.mp room
    have bound : ledger.settings.maxInFlight.toNat < 2 ^ 64 := ledger.settings.maxInFlight.toNat_lt
    have grown : (ledger.accept frame).tally.pending.toNat = ledger.tally.pending.toNat + 1 := by
      simp only [Ledger.accept, UInt64.toNat_add, UInt64.reduceToNat]
      omega
    constructor
    · intro _
      rw [grown, sound.counted.1 live.2, left_accept, List.length_append, List.length_singleton]
    · rw [grown]
      exact below
  spent := fun ended => absurd ended (not_or.mpr live)
  issued := by
    rw [Issued, Ledger.accept, List.map_append, sound.issued]
    simp [PendingQueue.issue, List.range_succ]
  told := sound.told

/-- A request that the task takes goes from the one list to the other. -/
theorem take (sound : ledger.Sound) {ticket : Ticket} {frame : Octets} {rest : List Command}
    (first : ledger.commands = .send ticket frame :: rest) (sent : UInt64) :
    (ledger.take ticket frame rest sent).Sound where
  phased := sound.phased
  lined := by
    rw [Lined, left_take first]
    exact PendingQueue.InLine.rewait sound.lined _
  counted := by
    rw [Counted, left_take first]
    exact sound.counted
  spent := by
    rw [Spent, left_take first]
    exact sound.spent
  issued := sound.issued
  told := sound.told

/-- A frame answers the request that has waited longest, and returns its reservation. -/
theorem receive (sound : ledger.Sound) (live : ledger.task ≠ .ended ∧ ledger.task ≠ .dropped)
    (frame : Frame) : (ledger.receive frame).Sound := by
  unfold Ledger.receive
  split
  · exact ⟨sound.phased, sound.lined, sound.counted, sound.spent, sound.issued, sound.told⟩
  · next ticket rest first =>
    have leaves : ledger.left = ticket :: (rest ++ untaken ledger.commands) := by
      simp [left, first]
    have counted : ledger.tally.pending.toNat = (rest ++ untaken ledger.commands).length + 1 := by
      rw [sound.counted.1 live.2, leaves, List.length_cons]
    have enough : 1 ≤ (ledger.note frame).tally.pending.toNat := by
      change 1 ≤ ledger.tally.pending.toNat
      omega
    have released := toNat_release (ledger.note frame).tally enough
    have line := sound.lined
    rw [Lined, leaves] at line
    refine ⟨sound.phased, (line.rewait rest).settle _, ⟨fun _ => ?_, ?_⟩,
      fun ended => absurd ended (not_or.mpr live), ?_, sound.told⟩
    · apply released.trans
      change ledger.tally.pending.toNat - 1 = (rest ++ untaken ledger.commands).length
      omega
    · apply Nat.le_trans (Nat.le_of_eq released)
      exact Nat.le_trans (Nat.sub_le _ _) sound.counted.2
    · simpa [Issued, complete, note] using sound.issued

/-- A frame does not change what the task is doing. -/
theorem task_receive (frame : Frame) : (ledger.receive frame).task = ledger.task := by
  unfold Ledger.receive
  split <;> rfl

/-- The accounts are kept frame by frame. -/
theorem receives (sound : ledger.Sound) (live : ledger.task ≠ .ended ∧ ledger.task ≠ .dropped)
    (frames : List Frame) : (frames.foldl Ledger.receive ledger).Sound := by
  induction frames generalizing ledger with
  | nil => exact sound
  | cons frame rest inductionHypothesis =>
    apply inductionHypothesis (sound.receive live frame)
    rw [task_receive]
    exact live

/-- The end completes all that is left, and returns as many reservations. -/
theorem finish (sound : ledger.Sound) (live : ledger.task ≠ .dropped) (reason : LinkError) :
    (ledger.finish reason).Sound := by
  have all := Session.map_fst_leftovers ledger.pending.waiting ledger.commands reason
  have line := sound.lined
  rw [Lined, left, ← all, ← List.append_nil (List.map _ _)] at line
  have total : (Session.leftovers ledger.pending.waiting ledger.commands reason).length =
      ledger.tally.pending.toNat := by
    rw [sound.counted.1 live, left, ← all, List.length_map]
  have number : (ledger.finish reason).tally.pending.toNat = 0 := by
    rw [Ledger.finish, complete, toNat_release _ (Nat.le_of_eq total), total, Nat.sub_self]
  refine ⟨rfl, ?_, ⟨fun _ => by rw [number, left_finish]; rfl, by rw [number]; exact Nat.zero_le _⟩,
    fun _ => left_finish reason, ?_, fun _ => rfl⟩
  · rw [Lined, left_finish]
    exact (line.rewait []).settleAll
  · simpa [Issued, Ledger.finish, complete] using sound.issued

/-- A dropped task leaves the counter as it was. -/
theorem drop (sound : ledger.Sound) (live : ledger.task ≠ .ended ∧ ledger.task ≠ .dropped) :
    ledger.drop.Sound := by
  have all : (ledger.left.map fun ticket =>
      (ticket, (.error .connectionClosed : Outcome))).map Prod.fst = ledger.left := by
    simp [Function.comp_def]
  have line := sound.lined
  rw [Lined, ← all, ← List.append_nil (List.map Prod.fst _)] at line
  refine ⟨?_, ?_, ⟨fun kept => absurd rfl kept, sound.counted.2⟩, fun _ => left_drop, ?_, ?_⟩
  · have phased := sound.phased
    change ledger.lifecycle = .connected ∨ ledger.lifecycle = .closing
    unfold Phased Task.Agrees at phased
    split at phased <;> simp_all
  · rw [Lined, left_drop]
    exact (line.rewait []).settleAll
  · simpa [Issued, Ledger.drop, complete] using sound.issued
  · intro member
    exact absurd (sound.told member) live.1

/-- Commands that are no requests count for nothing. -/
theorem recommand (sound : ledger.Sound) {commands : List Command}
    (same : untaken commands = untaken ledger.commands) :
    Sound { ledger with commands := commands } := by
  have leaves : left { ledger with commands := commands } = ledger.left :=
    congrArg (ledger.pending.waiting ++ ·) same
  refine ⟨sound.phased, ?_, ?_, ?_, sound.issued, sound.told⟩
  · rw [Lined, leaves]
    exact sound.lined
  · rw [Counted, leaves]
    exact sound.counted
  · rw [Spent, leaves]
    exact sound.spent

/-- A task that goes on to its next stage, short of its end, takes no request with it. -/
theorem proceed (sound : ledger.Sound) (live : ledger.task ≠ .ended ∧ ledger.task ≠ .dropped)
    (task : Task) {state : Lifecycle} (agrees : task.Agrees state)
    (ongoing : task ≠ .ended ∧ task ≠ .dropped) {published : List Lifecycle}
    (quiet : .closed ∉ published) :
    Sound { ledger with
      lifecycle := state
      task := task
      states := ledger.states ++ published } := by
  refine ⟨agrees, sound.lined, ⟨fun _ => sound.counted.1 live.2, sound.counted.2⟩,
    fun ended => absurd ended (not_or.mpr ongoing), sound.issued, ?_⟩
  intro member
  rcases List.mem_append.mp member with before | new
  · exact absurd (sound.told before) live.1
  · exact absurd new quiet

/-- Every request is completed or left. -/
theorem length_add (sound : ledger.Sound) :
    ledger.completions.length + ledger.left.length = ledger.requests.length := by
  have issued : ledger.requests.length = ledger.pending.replies.length := by
    simpa using congrArg List.length sound.issued
  rw [issued]
  exact sound.lined.length_add

/-- Every move keeps the accounts. -/
theorem next (sound : ledger.Sound) (moved : ledger.Next accepting after) : after.Sound := by
  cases moved with
  | same => exact sound
  | accepted frame text framed room taking => exact sound.accept room taking frame
  | askedToClose taking =>
    exact sound.recommand (by simp)
  | abandoned ticket =>
    refine ⟨sound.phased, PendingQueue.InLine.abandon sound.lined ticket, sound.counted,
      sound.spent, ?_, sound.told⟩
    simpa [Issued, PendingQueue.abandon] using sound.issued
  | started held =>
    have phased := sound.phased
    rw [Phased, held] at phased
    have ready := sound.proceed (by simp [held]) .ready phased (by simp) List.not_mem_nil
    rwa [List.append_nil] at ready
  | begun ready =>
    have phased := sound.phased
    rw [Phased, ready] at phased
    have running := sound.proceed (by simp [ready]) .running phased (by simp) List.not_mem_nil
    rwa [List.append_nil] at running
  | taken ticket frame rest sent running first => exact sound.take first sent
  | closing rest deadline running first =>
    have same : untaken rest = untaken ledger.commands := by
      rcases first with asked | ⟨none, _⟩
      · rw [asked, Session.untaken_close]
      · rw [none]
    have live : ledger.task ≠ .ended ∧ ledger.task ≠ .dropped := by simp [running]
    exact (sound.recommand same).proceed live (.closing deadline) rfl (by simp) (by simp)
  | fed octets frames codec running extracted =>
    have read : (ledger.read octets codec).Sound :=
      ⟨sound.phased, sound.lined, sound.counted, sound.spent, sound.issued, sound.told⟩
    refine read.receives ?_ frames
    change ledger.task ≠ .ended ∧ ledger.task ≠ .dropped
    simp [running]
  | overrun octets error codec running refused =>
    have read : (ledger.read octets codec).Sound :=
      ⟨sound.phased, sound.lined, sound.counted, sound.spent, sound.issued, sound.told⟩
    refine read.finish ?_ _
    change ledger.task ≠ .dropped
    simp [running]
  | finished reason reasoned live =>
    refine sound.finish ?_ reason
    rcases live with running | ⟨deadline, closing⟩ <;> simp_all
  | dropped live => exact sound.drop live

end Sound

/-- The task takes requests in the order in which they were accepted. Those that it had not taken
by its end are never taken. -/
def Ordered (ledger : Ledger) : Prop :=
  (ledger.task ≠ .ended ∧ ledger.task ≠ .dropped →
    ledger.taken ++ Session.asked ledger.commands = ledger.requests) ∧
  ledger.taken <+: ledger.requests

/-- Frames take no request and add none. -/
theorem orders_receives (ledger : Ledger) (frames : List Frame) :
    (frames.foldl receive ledger).taken = ledger.taken ∧
      (frames.foldl receive ledger).commands = ledger.commands ∧
      (frames.foldl receive ledger).requests = ledger.requests ∧
      (frames.foldl receive ledger).task = ledger.task := by
  induction frames generalizing ledger with
  | nil => simp
  | cons frame rest inductionHypothesis =>
    obtain ⟨taken, commands, requests, task⟩ :=
      inductionHypothesis (ledger.receive frame)
    rw [List.foldl_cons, taken, commands, requests, task]
    unfold receive
    split <;> simp [note, complete]

/-- Every move keeps the order. -/
theorem Ordered.next (ordered : ledger.Ordered) (moved : ledger.Next accepting after) :
    after.Ordered := by
  obtain ⟨serving, kept⟩ := ordered
  cases moved with
  | same | abandoned => exact ⟨serving, kept⟩
  | accepted frame text framed room taking =>
    have grown : ledger.taken ++ (Session.asked ledger.commands ++
        [(ledger.pending.issue.1, frame)]) =
          ledger.requests ++ [(ledger.pending.issue.1, frame)] := by
      rw [← List.append_assoc, serving taking]
    constructor
    · intro _
      simpa [accept] using grown
    · exact kept.trans (List.prefix_append _ _)
  | askedToClose taking => exact ⟨fun _ => by simpa using serving taking, kept⟩
  | started held => exact ⟨fun _ => serving (by simp [held]), kept⟩
  | begun ready => exact ⟨fun _ => serving (by simp [ready]), kept⟩
  | taken ticket frame rest sent running first =>
    have whole := serving (by simp [running])
    have moved : (ledger.taken ++ [(ticket, frame)]) ++ Session.asked rest = ledger.requests := by
      rw [← whole, first]
      simp
    exact ⟨fun _ => moved, ⟨_, moved⟩⟩
  | closing rest deadline running first =>
    have whole := serving (by simp [running])
    constructor
    · intro _
      rcases first with asked | ⟨none, _⟩
      · simpa [asked] using whole
      · simpa [none] using whole
    · exact kept
  | fed octets frames codec running extracted =>
    obtain ⟨taken, commands, requests, task⟩ :=
      orders_receives (ledger.read octets codec) frames
    rw [Ordered, taken, commands, requests, task]
    exact ⟨serving, kept⟩
  | overrun | finished => exact ⟨fun present => absurd rfl present.1, kept⟩
  | dropped => exact ⟨fun present => absurd rfl present.2, kept⟩

/-- Frames do not change the settings. -/
theorem settings_receives (frames : List Frame) :
    (frames.foldl receive ledger).settings = ledger.settings := by
  induction frames generalizing ledger with
  | nil => rfl
  | cons frame rest inductionHypothesis =>
    rw [List.foldl_cons, inductionHypothesis]
    unfold receive
    split <;> rfl

/-- Settings are chosen once. -/
theorem Next.settings_eq (moved : ledger.Next accepting after) :
    after.settings = ledger.settings := by
  cases moved with
  | fed octets frames codec running extracted => exact settings_receives frames
  | _ => rfl

/-- An end is an end. -/
theorem Next.ended (moved : ledger.Next accepting after) (ended : ledger.task = .ended) :
    after.task = .ended := by
  cases moved <;> simp_all

/-- A task that was dropped stays so. -/
theorem Next.dropped_of_dropped (moved : ledger.Next accepting after)
    (gone : ledger.task = .dropped) : after.task = .dropped := by
  cases moved <;> simp_all

/-- Nobody enters the loop who has left it. -/
theorem Next.serving (moved : ledger.Next accepting after)
    (serving : after.task.isServing = true) : ledger.task.isServing = true := by
  cases moved with
  | started held => simp [held, Task.isServing]
  | begun ready => simp [ready, Task.isServing]
  | fed octets frames codec running extracted => simp [running, Task.isServing]
  | closing | overrun | finished | dropped => cases serving
  | _ => exact serving

/-- Outside of the loop no request is taken. -/
theorem Next.taken_eq (moved : ledger.Next accepting after)
    (left : ledger.task.isServing = false) : after.taken = ledger.taken := by
  cases moved with
  | taken ticket frame rest sent running first => simp [running, Task.isServing] at left
  | fed octets frames codec running extracted => exact (orders_receives _ frames).1
  | _ => rfl

/-- Requests come of the sends that were answered with a ticket, and of nothing else. -/
theorem Next.requests_eq (moved : ledger.Next accepting after) :
    if accepting then ∃ frame, after = ledger.accept frame
    else after.requests = ledger.requests := by
  cases moved with
  | accepted frame text framed room taking => exact ⟨frame, rfl⟩
  | fed octets frames codec running extracted => exact (orders_receives _ frames).2.2.1
  | _ => rfl

end Ledger

namespace Session

variable {settings : Settings} {origin session : Session} {past : List (Session × Move)}

/-- The accounts are right at the beginning. -/
theorem sound_of_opened (opened : Opened settings origin) : origin.ledger.Sound := by
  obtain ⟨outlet, task, fresh, rfl⟩ := opened
  exact .new settings outlet fresh

/-- The state is connected as long as the task is in its loop. -/
theorem connected_of_running (sound : session.ledger.Sound) (running : session.task = .running) :
    session.lifecycle = .connected := by
  have phased : session.task.Agrees session.lifecycle := sound.phased
  rw [running] at phased
  exact phased

/-- The accounts make every move of a session a move of its ledger. -/
theorem next_of_sound {before after : Session} {accepting : Bool} (sound : before.ledger.Sound)
    (becomes : Becomes before accepting after) : before.ledger.Next accepting after.ledger :=
  next_of_becomes (connected_of_running sound) becomes

/-- Wherever a run leads, the accounts are kept. -/
theorem Run.sound (run : Run origin past session) (sound : origin.ledger.Sound) :
    session.ledger.Sound :=
  run.preserves (fun session => session.ledger.Sound) sound
    fun becomes sound => sound.next (next_of_sound sound becomes)

/-- The accounts are kept in every state that a run leads to. -/
theorem Reachable.sound (reachable : Reachable settings session) : session.ledger.Sound := by
  obtain ⟨origin, past, opened, run⟩ := reachable
  exact run.sound (sound_of_opened opened)

/-- Every completion is found by its caller. -/
theorem Reachable.outcome_of_completed (reachable : Reachable settings session)
    (completion : Ticket × Outcome) (completed : completion ∈ session.completions) :
    session.pending.outcome? completion.1 = some completion.2 := by
  obtain ⟨place, found⟩ := List.getElem?_of_mem completed
  have numbered : completion.1 = place := reachable.sound.lined.getElem?_completions found
  have settled : session.pending.outcome? completion.1 =
      (session.completions[completion.1]?).map Prod.snd :=
    reachable.sound.lined.settled completion.1
  rw [settled, numbered, found]
  rfl

/-- What every move of a sound ledger keeps holds along a run. -/
theorem Run.preserves_ledger (run : Run origin past session) (Kept : Ledger → Prop)
    (sound : origin.ledger.Sound) (kept : Kept origin.ledger)
    (step : ∀ {before after : Ledger} {accepting : Bool},
      before.Sound → before.Next accepting after → Kept before → Kept after) :
    Kept session.ledger := by
  have both : session.ledger.Sound ∧ Kept session.ledger :=
    run.preserves (fun session => session.ledger.Sound ∧ Kept session.ledger)
      ⟨sound, kept⟩ fun becomes held =>
        have next := next_of_sound held.1 becomes
        ⟨held.1.next next, step held.1 next held.2⟩
  exact both.2

/-- The order is kept in every state that a run leads to. -/
theorem Reachable.ordered (reachable : Reachable settings session) : session.ledger.Ordered := by
  obtain ⟨origin, past, opened, run⟩ := reachable
  refine run.preserves_ledger Ledger.Ordered (sound_of_opened opened) ?_
    fun _ next ordered => ordered.next next
  obtain ⟨outlet, task, _, rfl⟩ := opened
  exact ⟨fun _ => rfl, List.prefix_refl _⟩

/-- Settings stay the same along a run. -/
theorem Run.settings_eq (run : Run origin past session) (sound : origin.ledger.Sound) :
    session.settings = origin.settings :=
  run.preserves_ledger (fun ledger => ledger.settings = origin.settings) sound rfl
    fun _ next same => next.settings_eq.trans same

/-- The settings of a session are those that it was opened with. -/
theorem Reachable.settings_eq (reachable : Reachable settings session) :
    session.settings = settings := by
  obtain ⟨origin, past, opened, run⟩ := reachable
  rw [run.settings_eq (sound_of_opened opened)]
  obtain ⟨outlet, task, fresh, rfl⟩ := opened
  rfl

/-- The request that a stage of a run adds, if it is a send that is answered with a ticket: the
ticket, and the frame of the message. -/
def requested? (stage : Session × Move) : Option (Ticket × Octets) :=
  match stage.1.answer? stage.2, stage.2.text? with
  | some (.ok ticket), some text =>
    match frameMessage text stage.1.settings.maxPayload with
    | .ok frame => some (ticket, frame)
    | .error _ => none
  | _, _ => none

/-- A send adds the request that it answers, and none if it fails. -/
theorem requests_sendFrame (session : Session) (frame : Octets) :
    (session.sendFrame frame).2.requests = session.requests ++
      match (session.sendFrame frame).1 with
      | .ok ticket => [(ticket, frame)]
      | .error _ => [] := by
  have added : (session.accept frame).requests =
      session.requests ++ [(session.pending.issue.1, frame)] :=
    congrArg Ledger.requests (ledger_accept session frame)
  rw [sendFrame_eq]
  split
  · split
    · exact added
    · exact (List.append_nil _).symm
  · exact (List.append_nil _).symm

/-- A move adds the request that its caller is told of, and no other. -/
theorem requests_of_make {session next : Session} {move : Move} (sound : session.ledger.Sound)
    (made : session.make? move = some next) :
    next.requests = session.requests ++ (requested? (session, move)).toList := by
  have quiet (silent : session.answer? move = none) :
      next.requests = session.requests ++ (requested? (session, move)).toList := by
    have grown := (next_of_sound sound (becomes_of_make made)).requests_eq
    have refused : session.accepts move = false := by simp [accepts, silent]
    have nothing : requested? (session, move) = none := by simp [requested?, silent]
    rw [refused] at grown
    rw [nothing, Option.toList_none, List.append_nil]
    exact grown
  cases move with
  | send text =>
    obtain rfl := eq_of_byHandle made
    simp only [send, requested?, answer?, Move.text?]
    by_cases connected : session.lifecycle = .connected
    · cases framed : frameMessage text session.settings.maxPayload with
      | error error => simp [connected]
      | ok frame =>
        simp only [connected, if_true, requests_sendFrame]
        cases (session.sendFrame frame).1 <;> simp [framed]
    · simp [connected]
  | sendChecked text =>
    simp only [make?] at made
    split at made
    · next frame framed =>
      obtain rfl := eq_of_byHandle made
      simp only [requested?, answer?, Move.text?, framed, requests_sendFrame]
      cases (session.sendFrame frame).1 <;> simp [framed]
    · cases made
  | _ => exact quiet rfl

/-- The requests are what the sends of a run returned, in order. -/
theorem Run.requests_eq (run : Run origin past session) (sound : origin.ledger.Sound) :
    session.requests = origin.requests ++ past.filterMap requested? := by
  induction run with
  | stay => simp
  | step earlier made inductionHypothesis =>
    rw [requests_of_make (earlier.sound sound) made, inductionHypothesis, List.append_assoc,
      List.filterMap_append]
    rfl

/-- The requests of a session are those that the sends of its run added. -/
theorem Run.requests_of_opened (run : Run origin past session) (opened : Opened settings origin) :
    session.requests = past.filterMap requested? := by
  have fresh : origin.requests = [] := by
    obtain ⟨outlet, task, _, rfl⟩ := opened
    rfl
  rw [run.requests_eq (sound_of_opened opened), fresh, List.nil_append]

/-- Every send that was answered with a ticket is a request, and every request comes of one. -/
theorem Run.length_requests (run : Run origin past session) (sound : origin.ledger.Sound) :
    session.requests.length = origin.requests.length + sendsAccepted past := by
  induction run with
  | stay => rfl
  | @step past before next move earlier made inductionHypothesis =>
    have grown := (next_of_sound (earlier.sound sound) (becomes_of_make made)).requests_eq
    rw [sendsAccepted, List.countP_append, ← sendsAccepted, ← Nat.add_assoc, ← inductionHypothesis,
      List.countP_singleton]
    cases marked : before.accepts move with
    | false =>
      rw [marked] at grown
      have same : next.requests = before.requests := grown
      simp [same]
    | true =>
      rw [marked] at grown
      obtain ⟨frame, result⟩ := grown
      have added : next.requests = before.requests ++ [(before.pending.issue.1, frame)] :=
        congrArg Ledger.requests result
      simp [added]

end Session

end Antiphon
