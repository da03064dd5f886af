import Antiphon.Proofs.Codec.Pipeline
import Antiphon.Proofs.Session.Parallel

/-!
# Sends that are refused

A send passes its checks in a fixed order, and the first one that fails is its answer: the published
state, the message, the number of requests in flight, and whether the task still takes commands. By
the last one a reservation has been made, and it is given back. `refusal?` is that first check, told
of the state alone.

A refused send leaves the very state that it found. So whatever can follow it could as well have
followed without it, and a run without its refused sends is a run to the same state. Runs are told
by their moves, hence two runs that differ in refused sends only are the same run otherwise.
-/

namespace Antiphon.Session

/-- Why a message that has its frame is not accepted, if there is a reason. -/
def obstacle? (session : Session) : Option LinkError :=
  if session.tally.pending = session.settings.maxInFlight then
    some (.tooManyInFlight session.settings.maxInFlight.toNat)
  else if session.takesCommands then none
  else some .notConnected

/-- Why a message is not accepted, if there is a reason: the first, in the order of the checks. -/
def refusal? (session : Session) (text : Except Json.Fault Octets) : Option LinkError :=
  if session.lifecycle ≠ .connected then some .notConnected
  else match text with
    | .error fault => some (.encode fault)
    | .ok payload =>
      if session.settings.maxPayload.toNat < payload.length then
        some (.payloadTooLarge payload.length
          (if Frame.absoluteLimit < payload.length then Frame.absoluteLimit
            else session.settings.maxPayload.toNat))
      else session.obstacle?

/-- Whether a move is a send that is answered with an error. -/
def refuses (session : Session) (move : Move) : Bool :=
  (session.answer? move).any fun answer => !answer.isOk

/-- Whether a stage of a run is a send that was refused. -/
def refused (stage : Session × Move) : Bool := stage.1.refuses stage.2

variable {settings : Settings} {origin session next : Session} {past : List (Session × Move)}

/-- There is room below the limit and nowhere else, as long as the limit is kept. -/
theorem pending_lt_iff (within : session.tally.pending.toNat ≤ session.settings.maxInFlight.toNat) :
    session.tally.pending < session.settings.maxInFlight ↔
      session.tally.pending ≠ session.settings.maxInFlight := by
  rw [UInt64.lt_iff_toNat_lt, Ne, ← UInt64.toNat_inj]
  omega

/-- A frame is accepted unless there is an obstacle; else nothing changes. -/
theorem sendFrame_eq_obstacle
    (within : session.tally.pending.toNat ≤ session.settings.maxInFlight.toNat) (frame : Octets) :
    session.sendFrame frame = match session.obstacle? with
      | some error => (.error error, session)
      | none => (.ok session.pending.issue.1, session.accept frame) := by
  rw [sendFrame_eq, obstacle?]
  simp only [pending_lt_iff within, ne_eq, ite_not]
  split
  · rfl
  · split <;> rfl

/-- A message is accepted unless there is a reason against it; else nothing changes. -/
theorem send_eq_refusal
    (within : session.tally.pending.toNat ≤ session.settings.maxInFlight.toNat)
    (text : Except Json.Fault Octets) :
    match session.refusal? text with
    | some error => session.send text = (.error error, session)
    | none => ∃ payload, text = .ok payload ∧
        session.send text =
          (.ok session.pending.issue.1, session.accept (Frame.mk payload).octets) := by
  unfold refusal? send
  by_cases connected : session.lifecycle = .connected
  · rw [if_neg (not_not_intro connected), if_pos connected]
    cases text with
    | error fault => rfl
    | ok payload =>
      have framed : frameMessage (.ok payload) session.settings.maxPayload = _ :=
        Codec.encode_eq session.settings.maxPayload payload
      simp only [framed]
      by_cases above : session.settings.maxPayload.toNat < payload.length
      · simp [above, Nat.not_le_of_lt above]
      · simp only [above, Nat.le_of_not_lt above, if_true, if_false]
        rw [sendFrame_eq_obstacle within]
        cases session.obstacle? with
        | none => exact ⟨payload, rfl, rfl⟩
        | some error => rfl
  · rw [if_pos connected, if_neg connected]

/-- A frame that is refused changes nothing. -/
theorem sendFrame_of_refused {frame : Octets} (failed : (session.sendFrame frame).1.isOk = false) :
    (session.sendFrame frame).2 = session := by
  rw [sendFrame_eq] at failed ⊢
  by_cases room : session.tally.pending < session.settings.maxInFlight
  · rw [if_pos room] at failed ⊢
    cases taking : session.takesCommands with
    | true =>
      rw [taking, if_pos rfl] at failed
      cases failed
    | false => rfl
  · rw [if_neg room]

/-- Nor does a message. -/
theorem send_of_refused {text : Except Json.Fault Octets}
    (failed : (session.send text).1.isOk = false) : (session.send text).2 = session := by
  unfold send at failed ⊢
  by_cases connected : session.lifecycle = .connected
  · rw [if_pos connected] at failed ⊢
    cases framed : frameMessage text session.settings.maxPayload with
    | error error => rfl
    | ok frame =>
      simp only [framed] at failed
      exact sendFrame_of_refused failed
  · rw [if_neg connected]

/-- A send that is refused can be made by whoever holds a handle, and leaves everything as it
was. -/
theorem make?_of_refuses {move : Move} (failed : session.refuses move = true) :
    session.make? move = session.byHandle session := by
  cases move with
  | send text =>
    have failed : (session.send text).1.isOk = false := by simpa [refuses, answer?] using failed
    simp only [make?, send_of_refused failed]
  | sendChecked text =>
    cases framed : frameMessage text session.settings.maxPayload with
    | error error => simp [refuses, answer?, framed] at failed
    | ok frame =>
      have failed : (session.sendFrame frame).1.isOk = false := by
        simpa [refuses, answer?, framed] using failed
      simp only [make?, framed, sendFrame_of_refused failed]
  | _ => cases failed

/-- What follows a send that is refused could have followed without it. -/
theorem play?_of_refuses {move : Move} (failed : session.refuses move = true)
    (held : 0 < session.handles) (moves : List Move) :
    session.play? (move :: moves) =
      (session.play? moves).map fun rest => ((session, move) :: rest.1, rest.2) := by
  simp only [play?, make?_of_refuses failed, byHandle, held, if_true, Option.bind_eq_bind,
    Option.bind_some]
  cases session.play? moves <;> rfl

/-- Refused sends can be left out of a run. -/
theorem Run.without_refused (run : Run origin past session) :
    Run origin (past.filter fun stage => !refused stage) session := by
  induction run with
  | stay => exact .stay
  | @step past before next move earlier made inductionHypothesis =>
    rw [List.filter_append]
    cases failed : before.refuses move with
    | true =>
      -- The stage that is left out leads from a state to the same one.
      rw [make?_of_refuses failed] at made
      obtain rfl := eq_of_byHandle made
      simpa [refused, failed] using inductionHypothesis
    | false => simpa [refused, failed] using inductionHypothesis.step made

/-- A run is told by its moves. -/
theorem Run.eq_of_moves {others : List (Session × Move)} {other : Session}
    (run : Run origin past session) (run' : Run origin others other)
    (same : others.map Prod.snd = past.map Prod.snd) : others = past ∧ other = session := by
  have played : origin.play? (past.map Prod.snd) = some (past, session) :=
    play?_eq_some_iff.mpr ⟨rfl, run⟩
  have played' : origin.play? (past.map Prod.snd) = some (others, other) :=
    play?_eq_some_iff.mpr ⟨same, run'⟩
  exact Prod.mk.inj (Option.some.inj (played'.symm.trans played))

/-- A send that is refused leaves no trace. In every state of every run, a message is answered by
the first check that it fails (`refusal?`), and gets a ticket of its own if it passes them all; one
whose state and message were checked earlier is answered by the checks that remain. The counter that
decides about room never exceeds the limit, and is the number of requests that are left while there
is a task to answer them.

Whoever holds a handle can have a send refused, and then everything can follow that could have
followed without it, through the same states. A run without its refused sends is a run to the same
state, and runs that make the same moves apart from refused sends go through the same states and end
in the same one. -/
theorem refusal_traceless (opened : Opened settings origin) (run : Run origin past session) :
    (session.settings = settings ∧ session.tally.pending ≤ settings.maxInFlight ∧
      (session.task ≠ .dropped → session.tally.pending.toNat =
        session.pending.waiting.length + (untaken session.commands).length)) ∧
    (∀ text, match session.refusal? text with
      | some error => session.send text = (.error error, session)
      | none => ∃ payload, text = .ok payload ∧
          session.send text =
            (.ok session.pending.issue.1, session.accept (Frame.mk payload).octets)) ∧
    (∀ frame, session.sendFrame frame = match session.obstacle? with
      | some error => (.error error, session)
      | none => (.ok session.pending.issue.1, session.accept frame)) ∧
    (∀ move moves, session.refuses move = true → 0 < session.handles →
      session.play? (move :: moves) =
        (session.play? moves).map fun rest => ((session, move) :: rest.1, rest.2)) ∧
    Run origin (past.filter fun stage => !refused stage) session ∧
    ∀ others other, Run origin others other → loud refused others = loud refused past →
      other = session ∧
        (others.filter fun stage => !refused stage) = past.filter fun stage => !refused stage := by
  have sound : session.ledger.Sound := run.sound (sound_of_opened opened)
  have chosen : session.settings = settings := Reachable.settings_eq ⟨origin, past, opened, run⟩
  have within : session.tally.pending.toNat ≤ session.settings.maxInFlight.toNat :=
    sound.counted.2
  have left : session.ledger.left.length =
      session.pending.waiting.length + (untaken session.commands).length := List.length_append
  refine ⟨⟨chosen, ?_, fun present => (sound.counted.1 present).trans left⟩,
    send_eq_refusal within, sendFrame_eq_obstacle within,
    fun move moves failed held => play?_of_refuses failed held moves, run.without_refused, ?_⟩
  · rw [← chosen]
    exact UInt64.le_iff_toNat_le.mpr within
  · intro others other run' same
    exact (run.without_refused.eq_of_moves run'.without_refused same).symm

/-- A link with room for one request, and a second send while the first one is pending. -/
theorem refusal_traceless_of_full :
    ∃ origin past session,
      Opened (Settings.default.withMaxInFlight 1) origin ∧ Run origin past session ∧
        past.map Prod.snd = [.send (.ok [0x7b, 0x7d]), .send (.ok [0x5b, 0x5d])] ∧
        session.send (.ok [0x31]) = (.error (.tooManyInFlight 1), session) ∧
        Run origin (past.take 1) session := by
  let origin : Session := .new (Settings.default.withMaxInFlight 1) .unlimited .ready
  have opened : Opened (Settings.default.withMaxInFlight 1) origin := ⟨_, _, .inr rfl, rfl⟩
  have first := Run.step (.stay : Run origin [] origin)
    (rfl : origin.make? (.send (.ok [0x7b, 0x7d])) = some _)
  have run := Run.step first (rfl : Session.make? _ (.send (.ok [0x5b, 0x5d])) = some _)
  obtain ⟨_, answers, _, _, without, _⟩ := refusal_traceless opened run
  exact ⟨origin, _, _, opened, run, rfl, answers (.ok [0x31]), without⟩

end Antiphon.Session
