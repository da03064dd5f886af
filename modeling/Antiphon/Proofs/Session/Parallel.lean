import Antiphon.Proofs.Session.Dispatch

/-!
# Two runs side by side

Two runs are compared that make the same moves in the same order, except for stages that are
silent: these may stand anywhere in either run. What is compared need not be whole states. A
relation of states is enough that a silent stage on either side leaves as it was and that a move
made on both sides preserves.

`Simulation.alike` carries such a relation along two whole runs. The induction is on the first run
and, at each stage of it that is not silent, on the second one, which has to get through its own
silent stages before it makes the same move.

The relations in use are views: two states are alike if they are the same once some of what they
consist of is left out. What such a view has to keep for a send or a read to come to the same is
collected in `Sends` and `Reads`.
-/

namespace Antiphon.Session

/-- The states that a run went through, the last one included. -/
def visited (past : List (Session × Move)) (session : Session) : List Session :=
  past.map Prod.fst ++ [session]

/-- A run goes through the state that its last move leads to. -/
@[simp] theorem visited_concat (past : List (Session × Move)) (before next : Session)
    (move : Move) : visited (past ++ [(before, move)]) next = visited past before ++ [next] := by
  simp [visited]

/-- A run can be divided at any state that it went through. -/
theorem Run.through {origin session state : Session} {past : List (Session × Move)}
    (run : Run origin past session) (there : state ∈ visited past session) :
    ∃ front back, past = front ++ back ∧ Run origin front state ∧ Run state back session := by
  rcases List.mem_append.mp there with left | here
  · obtain ⟨stage, member, rfl⟩ := List.mem_map.mp left
    obtain ⟨front, rest, rfl⟩ := List.append_of_mem member
    obtain ⟨earlier, next, moved, onward⟩ := run.divide
    exact ⟨front, stage :: rest, rfl, earlier, .cons moved onward⟩
  · obtain rfl := List.mem_singleton.mp here
    exact ⟨past, [], (List.append_nil past).symm, run, .stay⟩

/-- Two states that are the same to callers and to the stream, whatever else they differ in. -/
structure Indistinct (one other : Session) : Prop where
  outcomes : ∀ ticket, one.pending.outcome? ticket = other.pending.outcome? ticket
  accepted : one.acceptedOctets = other.acceptedOctets
  calls : one.calls = other.calls
  tally : one.tally = other.tally
  lifecycle : one.lifecycle = other.lifecycle
  states : one.states = other.states

/-- The moves of a run apart from its silent stages. -/
def loud (silent : Session × Move → Bool) (past : List (Session × Move)) : List Move :=
  (past.filter fun stage => !silent stage).map Prod.snd

/-- A silent stage is not heard. -/
theorem loud_concat_of_silent {silent : Session × Move → Bool} {past : List (Session × Move)}
    {stage : Session × Move} (quiet : silent stage = true) :
    loud silent (past ++ [stage]) = loud silent past := by
  simp [loud, quiet]

/-- A loud stage is heard last. -/
theorem loud_concat_of_loud {silent : Session × Move → Bool} {past : List (Session × Move)}
    {stage : Session × Move} (heard : silent stage = false) :
    loud silent (past ++ [stage]) = loud silent past ++ [stage.2] := by
  simp [loud, heard]

/-- How two runs stay alike that go through valid states and differ in silent stages only, and tell
the same, stage by stage. -/
structure Simulation {β : Type} (valid : Session → Prop) (silent : Session × Move → Bool)
    (told : Session × Move → Option β) (Alike : Session → Session → Prop) : Prop where
  /-- A silent stage of the first run tells nothing and leaves the states alike, -/
  first : ∀ {session next other : Session} {move : Move}, valid session → valid next →
    valid other → Alike session other → silent (session, move) = true →
    session.make? move = some next → Alike next other ∧ told (session, move) = none
  /-- and so does one of the second. -/
  second : ∀ {session other next : Session} {move : Move}, valid session → valid other →
    valid next → Alike session other → silent (other, move) = true →
    other.make? move = some next → Alike session next ∧ told (other, move) = none
  /-- A move that both make has the same effect. -/
  both : ∀ {session next other next' : Session} {move : Move}, valid session → valid next →
    valid other → valid next' → Alike session other → silent (session, move) = false →
    silent (other, move) = false → session.make? move = some next →
    other.make? move = some next' → Alike next next' ∧ told (session, move) = told (other, move)

namespace Simulation

variable {β : Type} {valid : Session → Prop} {silent : Session × Move → Bool}
  {told : Session × Move → Option β} {Alike : Session → Session → Prop}
  {origin origin' session session' : Session} {past past' : List (Session × Move)}

/-- A silent stage at the end of the second run. -/
theorem second_step (simulation : Simulation valid silent told Alike)
    (proper : valid session) (proper' : ∀ state ∈ visited past' session', valid state)
    {next : Session} {move : Move} (last : valid next) (quiet : silent (session', move) = true)
    (made : session'.make? move = some next)
    (before : Alike session session' ∧ past.filterMap told = past'.filterMap told) :
    Alike session next ∧
      past.filterMap told = (past' ++ [(session', move)]).filterMap told := by
  have here : valid session' := proper' session' (by simp [visited])
  obtain ⟨alike, nothing⟩ := simulation.second proper here last before.1 quiet made
  refine ⟨alike, ?_⟩
  rw [List.filterMap_append, before.2]
  simp [nothing]

/-- Two runs that make the same moves apart from silent stages end alike, and tell the same. -/
theorem alike (simulation : Simulation valid silent told Alike) (start : Alike origin origin')
    (run : Run origin past session) (run' : Run origin' past' session')
    (proper : ∀ state ∈ visited past session, valid state)
    (proper' : ∀ state ∈ visited past' session', valid state)
    (same : loud silent past = loud silent past') :
    Alike session session' ∧ past.filterMap told = past'.filterMap told := by
  induction run generalizing past' session' with
  | stay =>
    -- The second run can have made silent stages only.
    induction run' with
    | stay => exact ⟨start, rfl⟩
    | @step past' before next move earlier made inductionHypothesis =>
      rw [visited_concat] at proper'
      obtain ⟨visitedBefore, last⟩ := List.forall_mem_append.mp proper'
      cases quiet : silent (before, move) with
      | false =>
        rw [loud_concat_of_loud quiet] at same
        simp [loud] at same
      | true =>
        rw [loud_concat_of_silent quiet] at same
        exact simulation.second_step (proper origin (by simp [visited])) visitedBefore
          (last next (by simp)) quiet made (inductionHypothesis visitedBefore same)
  | @step past before next move earlier made inductionHypothesis =>
    rw [visited_concat] at proper
    obtain ⟨visitedBefore, last⟩ := List.forall_mem_append.mp proper
    have here : valid before := visitedBefore before (by simp [visited])
    have there : valid next := last next (by simp)
    cases quiet : silent (before, move) with
    | true =>
      rw [loud_concat_of_silent quiet] at same
      obtain ⟨earlierAlike, toldAlike⟩ := inductionHypothesis run' visitedBefore proper' same
      obtain ⟨alike, nothing⟩ := simulation.first here there
        (proper' session' (by simp [visited])) earlierAlike quiet made
      refine ⟨alike, ?_⟩
      rw [List.filterMap_append, toldAlike]
      simp [nothing]
    | false =>
      rw [loud_concat_of_loud quiet] at same
      -- The second run makes the same move, after silent stages of its own or before some.
      induction run' with
      | stay => simp [loud] at same
      | @step past' before' next' move' earlier' made' innerHypothesis =>
        rw [visited_concat] at proper'
        obtain ⟨visitedBefore', last'⟩ := List.forall_mem_append.mp proper'
        have there' : valid next' := last' next' (by simp)
        cases quiet' : silent (before', move') with
        | true =>
          rw [loud_concat_of_silent quiet'] at same
          exact simulation.second_step there visitedBefore' there' quiet' made'
            (innerHypothesis visitedBefore' same)
        | false =>
          rw [loud_concat_of_loud quiet'] at same
          obtain ⟨sameBefore, sameMove⟩ := List.append_inj' same rfl
          obtain rfl : move = move' := List.singleton_inj.mp sameMove
          obtain ⟨earlierAlike, toldAlike⟩ :=
            inductionHypothesis earlier' visitedBefore visitedBefore' sameBefore
          obtain ⟨alike, answered⟩ := simulation.both here there
            (visitedBefore' before' (by simp [visited])) there' earlierAlike quiet quiet' made made'
          refine ⟨alike, ?_⟩
          rw [List.filterMap_append, List.filterMap_append, toldAlike]
          simp only [List.filterMap_cons, List.filterMap_nil, answered]

end Simulation

/-- What two states have to keep for some moves, to be kept by whatever is played of these: either
state makes a move that the other makes, and is answered the same. -/
def Steps (among : Move → Prop) (Alike : Session → Session → Prop) : Prop :=
  ∀ {one other : Session} {move : Move}, among move → Alike one other →
    (one.make? move = none ∧ other.make? move = none) ∨
      ∃ next next', one.make? move = some next ∧ other.make? move = some next' ∧
        Alike next next' ∧ one.answer? move = other.answer? move

/-- The same moves can be played from two states, with the same answers, and lead to states that are
alike. -/
def PlaysAlike (Alike : Session → Session → Prop) (moves : List Move) (one other : Session) :
    Prop :=
  (one.play? moves = none ∧ other.play? moves = none) ∨
    ∃ past last past' last', one.play? moves = some (past, last) ∧
      other.play? moves = some (past', last') ∧ Alike last last' ∧
      (past.filterMap fun stage => stage.1.answer? stage.2) =
        (past'.filterMap fun stage => stage.1.answer? stage.2)

/-- What is played alike is played alike in any weaker sense. -/
theorem PlaysAlike.imp {Alike Weaker : Session → Session → Prop} {moves : List Move}
    {one other : Session} (plays : PlaysAlike Alike moves one other)
    (weaken : ∀ {last last'}, Alike last last' → Weaker last last') :
    PlaysAlike Weaker moves one other := by
  rcases plays with stuck | ⟨past, last, past', last', played, played', alike, answers⟩
  · exact .inl stuck
  · exact .inr ⟨past, last, past', last', played, played', weaken alike, answers⟩

/-- What every step keeps is kept by whatever is played. -/
theorem playsAlike_of_steps {among : Move → Prop} {Alike : Session → Session → Prop}
    (steps : Steps among Alike) {moves : List Move} (all : ∀ move ∈ moves, among move)
    {one other : Session} (alike : Alike one other) : PlaysAlike Alike moves one other := by
  induction moves generalizing one other with
  | nil => exact .inr ⟨_, _, _, _, rfl, rfl, alike, rfl⟩
  | cons move rest inductionHypothesis =>
    obtain ⟨first, others⟩ := List.forall_mem_cons.mp all
    rcases steps first alike with ⟨stuck, stuck'⟩ | ⟨next, next', made, made', after, answered⟩
    · exact .inl (by simp [play?, stuck, stuck'])
    · rcases inductionHypothesis others after with ⟨stuck, stuck'⟩ |
        ⟨past, last, past', last', played, played', ends, answers⟩
      · exact .inl (by simp [play?, made, made', stuck, stuck'])
      · refine .inr ⟨(one, move) :: past, last, (other, move) :: past', last', ?_, ?_, ends, ?_⟩
        · simp [play?, made, played]
        · simp [play?, made', played']
        · rw [List.filterMap_cons, List.filterMap_cons, answers, answered]

section View

variable {view : Session → Session} {session : Session}

/-- What is exact under a view is so up to the view. -/
theorem map_view_of_eq (again : ∀ session, view (view session) = view session)
    {next next' : Option Session} (same : next.map view = next') :
    next.map view = next'.map view := by
  rw [← same]
  cases next <;> simp [again]

/-- What a caller does with a handle is seen in a view that shows whether there is one. -/
theorem byHandle_of_view {next next' : Session} (handles : 0 < session.handles ↔
    0 < (view session).handles) (same : view next = view next') :
    (session.byHandle next).map view = ((view session).byHandle next').map view := by
  by_cases held : 0 < session.handles
  · simp [byHandle, held, handles.mp held, same]
  · have nobody : ¬ 0 < (view session).handles := fun held' => held (handles.mpr held')
    simp [byHandle, held, nobody]

/-- A view of a session that leaves out nothing that decides about a send. -/
structure Sends (view : Session → Session) (session : Session) : Prop where
  again : view (view session) = view session
  lifecycle : (view session).lifecycle = session.lifecycle
  settings : (view session).settings = session.settings
  tally : (view session).tally = session.tally
  taking : (view session).takesCommands = session.takesCommands
  ticket : (view session).pending.issue.1 = session.pending.issue.1
  accepted : ∀ frame, view (session.accept frame) = view ((view session).accept frame)

/-- A frame is put in alike in a view that leaves nothing out about sends. -/
theorem Sends.sendFrame (sends : Sends view session) (frame : Octets) :
    (session.sendFrame frame).1 = ((view session).sendFrame frame).1 ∧
      view (session.sendFrame frame).2 = view ((view session).sendFrame frame).2 := by
  rw [sendFrame_eq, sendFrame_eq, sends.tally, sends.settings, sends.taking, sends.ticket]
  by_cases room : session.tally.pending < session.settings.maxInFlight
  · rw [if_pos room, if_pos room]
    cases session.takesCommands <;> simp [sends.accepted, sends.again]
  · rw [if_neg room, if_neg room]
    exact ⟨rfl, sends.again.symm⟩

/-- A send is made alike in a view that leaves nothing out about sends. -/
theorem Sends.send (sends : Sends view session) (text : Except Json.Fault Octets) :
    (session.send text).1 = ((view session).send text).1 ∧
      view (session.send text).2 = view ((view session).send text).2 := by
  unfold Session.send
  rw [sends.lifecycle, sends.settings]
  split
  · cases frameMessage text session.settings.maxPayload with
    | error error => exact ⟨rfl, sends.again.symm⟩
    | ok frame => exact sends.sendFrame frame
  · exact ⟨rfl, sends.again.symm⟩

/-- Whoever sends is answered the same. -/
theorem Sends.answer? (sends : Sends view session) (move : Move) :
    session.answer? move = (view session).answer? move := by
  cases move with
  | send text => exact congrArg some (sends.send text).1
  | sendChecked text =>
    simp only [Session.answer?, sends.settings]
    cases frameMessage text session.settings.maxPayload with
    | error error => rfl
    | ok frame => exact congrArg some (sends.sendFrame frame).1
  | _ => rfl

/-- The session after a read that found something. -/
def afterArrival (session : Session) (inlet : Inlet) : Arrival → Session
  | .finish => { session with inlet := inlet }.endByPeer
  | .fault fault => { session with inlet := inlet }.endByFailure (.io fault)
  | .chunk octets =>
    match session.codec.feed octets with
    | (.error error, codec) => (session.afterRead inlet octets codec).endByFailure error
    | (.ok frames, codec) => frames.foldl receive (session.afterRead inlet octets codec)

/-- A task in its loop reads what it finds. -/
theorem read?_eq (session : Session) :
    session.read? =
      if session.task = .running then
        (session.inlet.read session.settings.readCapacity).map fun found =>
          session.afterArrival found.2 found.1
      else none := by
  unfold read?
  split
  · next arrival inlet running available =>
    rw [if_pos running, available, Option.map_some]
    cases arrival with
    | finish | fault => rfl
    | chunk octets =>
      simp only [onData, afterArrival, afterRead]
      rcases session.codec.feed octets with ⟨error | frames, codec⟩ <;> rfl
  · next nothing =>
    by_cases running : session.task = .running
    · cases available : session.inlet.read session.settings.readCapacity with
      | none => simp
      | some found => exact absurd available (nothing _ _ running)
    · rw [if_neg running]

/-- A view of a session that leaves out nothing that decides about a read. -/
structure Reads (view : Session → Session) (session : Session) : Prop where
  task : (view session).task = session.task
  settings : (view session).settings = session.settings
  codec : (view session).codec = session.codec
  inlet : (view session).inlet = session.inlet
  left : ∀ inlet, view { session with inlet := inlet }.endByPeer =
    view { view session with inlet := inlet }.endByPeer
  failed : ∀ inlet error, view ({ session with inlet := inlet }.endByFailure error) =
    view ({ view session with inlet := inlet }.endByFailure error)
  overrun : ∀ inlet octets codec error,
    view ((session.afterRead inlet octets codec).endByFailure error) =
      view (((view session).afterRead inlet octets codec).endByFailure error)
  fed : ∀ inlet octets codec (frames : List Frame),
    view (frames.foldl receive (session.afterRead inlet octets codec)) =
      view (frames.foldl receive ((view session).afterRead inlet octets codec))

/-- A read is made alike in a view that leaves nothing out about reads. -/
theorem Reads.read? (reads : Reads view session) :
    session.read?.map view = (view session).read?.map view := by
  have found (inlet : Inlet) (arrival : Arrival) :
      view (session.afterArrival inlet arrival) =
        view ((view session).afterArrival inlet arrival) := by
    cases arrival with
    | finish => exact reads.left inlet
    | fault fault => exact reads.failed inlet _
    | chunk octets =>
      simp only [afterArrival, reads.codec]
      rcases session.codec.feed octets with ⟨error | frames, codec⟩
      · exact reads.overrun inlet octets codec error
      · exact reads.fed inlet octets codec frames
  rw [read?_eq, read?_eq, reads.task, reads.inlet, reads.settings]
  split
  · cases session.inlet.read session.settings.readCapacity with
    | none => rfl
    | some first => exact congrArg some (found first.2 first.1)
  · rfl

end View

end Antiphon.Session
