import RustGameserver.GameServer.Conservation

/-!
Contract: where a GameServer session is, and what it says about it.

Owns:
- the positions a session has been moved to, the last of which is its own;
- that it answers each move, in order, with the position it has moved to.

Does not own: who moves the session.
-/

namespace RustGameserver.GameServer

open RustGameserver.Foundation
open RustGameserver.Net
open RustGameserver.Proto
open RustGameserver.Session

abbrev Position : Type := Float32Bits × Float32Bits

def origin : Position := (.zero, .zero)

/-- The position that a message asks for. -/
def requestedPosition (message : MessageWrapper) : Option Position :=
  match message.payload with
  | some (.moveRequest req) => some (req.x, req.y)
  | _ => none

/-- The position that a handled message moves the session to. -/
def movedTo (entry : Session × MessageWrapper) : Option Position :=
  if entry.1.account.isSome then requestedPosition entry.2 else none

def moveResponse : Payload → Option MoveResponse
  | .moveResponse resp => some resp
  | _ => none

/-- The answer to a move. -/
def answerTo (position : Position) : MoveResponse := ⟨true, position.1, position.2⟩

variable {keepAliveTimeout : Nat} {task before after : Task Session Work Reply InnerMessage}
  {history seen : List (Seen Session Work Reply InnerMessage)}

/-- The positions the session has been moved to, in order. -/
def positions (history : List (Seen Session Work Reply InnerMessage)) : List Position :=
  (handled history).filterMap movedTo

/-- The answers to moves, in order. -/
def moveResponses (history : List (Seen Session Work Reply InnerMessage)) : List MoveResponse :=
  (accepted history).filterMap moveResponse

theorem positions_append (history more : List (Seen Session Work Reply InnerMessage)) :
    positions (history ++ more) = positions history ++ positions more := by
  rw [positions, handled_append, List.filterMap_append, positions, positions]

theorem moveResponses_append (history more : List (Seen Session Work Reply InnerMessage)) :
    moveResponses (history ++ more) = moveResponses history ++ moveResponses more := by
  rw [moveResponses, accepted_append, List.filterMap_append, moveResponses, moveResponses]

theorem requestedPosition_unhandled {message : MessageWrapper}
    (other : unhandled message.payload = true) : requestedPosition message = none := by
  unfold requestedPosition
  split
  · next asked =>
      rw [asked] at other
      contradiction
  · rfl

/-- What handling a message does to the position, and what is said about it. -/
theorem Session.Handles.position {session : Session} {now : Nat} {message : MessageWrapper}
    {reaction : Reaction Session Work} (handles : session.Handles now message reaction) :
    reaction.fields.position = (movedTo (session, message)).getD session.position ∧
      ∀ said, reaction.said = some said →
        said.filterMap moveResponse = ((movedTo (session, message)).map answerTo).toList := by
  cases handles with
  | rejected req asked | lookedUp req asked | keptAlive asked | reported report account asked
  | entered req account asked =>
      have elsewhere : movedTo (session, message) = none := by
        simp [movedTo, requestedPosition, asked]
      rw [elsewhere]
      refine ⟨rfl, ?_⟩
      intro said spoken
      cases spoken
      rfl
  | gated other anonymous =>
      have elsewhere : movedTo (session, message) = none := by
        simp [movedTo, anonymous]
      rw [elsewhere]
      exact ⟨rfl, nofun⟩
  | moved req account asked authenticated =>
      have here : movedTo (session, message) = some (req.x, req.y) := by
        simp [movedTo, requestedPosition, asked, authenticated]
      rw [here]
      refine ⟨rfl, ?_⟩
      intro said spoken
      cases spoken
      rfl
  | ignored account other authenticated =>
      have elsewhere : movedTo (session, message) = none := by
        simp [movedTo, requestedPosition_unhandled other]
      rw [elsewhere]
      refine ⟨rfl, ?_⟩
      intro said spoken
      cases spoken
      rfl

theorem Session.Answers.position {session : Session} {now : Nat} {message : InnerMessage}
    {reaction : Reaction Session Work} (answers : session.Answers now message reaction) :
    reaction.fields.position = session.position ∧
      ∀ said, reaction.said = some said → said.filterMap moveResponse = [] := by
  cases answers <;> exact ⟨rfl, fun said spoken => by cases spoken; rfl⟩

/-- What a reaction says is accepted, or nothing is and the loop is left. -/
theorem performed_accepted {cause : Cause} {reaction : Reaction Session Work}
    (performed : Task.Performed task cause reaction after seen) :
    handled seen = [] ∧ (reaction.said = some (accepted seen) ∨
      accepted seen = [] ∧ after.stage.inLoop = false) := by
  cases performed with
  | proceed | send | spawn | authenticate => exact ⟨rfl, .inl rfl⟩
  | stop | refuse | authenticateRefuse => exact ⟨rfl, .inr ⟨rfl, rfl⟩⟩

/-- A session is where it was moved last, and has said so, but for the last time if it has
left its loop since. -/
structure Placed (task : Task Session Work Reply InnerMessage)
    (history : List (Seen Session Work Reply InnerMessage)) : Prop where
  position : task.fields.position = (positions history).getLast?.getD origin
  told : moveResponses history <+: (positions history).map answerTo
  current : task.stage.inLoop = true →
    moveResponses history = (positions history).map answerTo

/-- The position after one more input. -/
theorem getLast_more (earlier : List Position) (next : Option Position) :
    (earlier ++ next.toList).getLast?.getD origin = next.getD (earlier.getLast?.getD origin) := by
  cases next with
  | none => rw [Option.toList_none, List.append_nil, Option.getD_none]
  | some position => rw [Option.toList_some, List.getLast?_append]; rfl

/-- A handler that moves the session, or does not. -/
theorem Placed.moved (placed : Placed before history) (inLoop : before.stage.inLoop = true)
    {next : Option Position}
    (position : after.fields.position = next.getD before.fields.position)
    (shape : positions seen = next.toList)
    (answered : moveResponses seen = (next.map answerTo).toList ∨
      moveResponses seen = [] ∧ after.stage.inLoop = false) :
    Placed after (history ++ seen) := by
  have current := placed.current inLoop
  have answers : (positions (history ++ seen)).map answerTo =
      moveResponses history ++ (next.map answerTo).toList := by
    rw [positions_append, List.map_append, shape, current]
    cases next <;> rfl
  constructor
  · rw [position, positions_append, shape, getLast_more, placed.position]
  · rw [answers, moveResponses_append]
    rcases answered with said | ⟨silent, _⟩
    · rw [said]
    · rw [silent, List.append_nil]
      exact List.prefix_append _ _
  · intro still
    rw [answers, moveResponses_append]
    rcases answered with said | ⟨_, left⟩
    · rw [said]
    · rw [left] at still
      contradiction

theorem Placed.stepped (placed : Placed before history)
    (stepped : Task.Stepped (service keepAliveTimeout) before after seen) :
    Placed after (history ++ seen) := by
  cases stepped.moves with
  | rests rests =>
      have still : positions seen = [] := by
        rw [positions, handled_of_silent rests.silent]
        rfl
      have silent : moveResponses seen = [] := by
        rw [moveResponses, accepted_of_silent rests.silent]
        rfl
      constructor
      · rw [positions_append, still, List.append_nil, rests.fields]
        exact placed.position
      · rw [positions_append, moveResponses_append, still, silent, List.append_nil,
          List.append_nil]
        exact placed.told
      · intro inLoop
        rw [positions_append, moveResponses_append, still, silent, List.append_nil,
          List.append_nil]
        exact placed.current (rests.inLoop inLoop)
  | @ran prepared said more cause reaction takes performed shape =>
      obtain ⟨unhandled, answered⟩ := performed_accepted performed
      have fields : after.fields = reaction.fields := performed.frame_eq.1
      have noMove : positions more = [] := by
        rw [positions, unhandled]
        rfl
      have way (next : Option Position) (quiet : moveResponses said = [])
          (speech : ∀ spoken, reaction.said = some spoken →
            spoken.filterMap moveResponse = (next.map answerTo).toList) :
          moveResponses seen = (next.map answerTo).toList ∨
            moveResponses seen = [] ∧ after.stage.inLoop = false := by
        rw [shape, moveResponses_append, quiet, List.nil_append]
        rcases answered with spoken | ⟨silent, left⟩
        · exact .inl (speech _ spoken)
        · refine .inr ⟨?_, left⟩
          rw [moveResponses, silent]
          rfl
      cases takes with
      | greeting stage =>
          have silent := way none rfl fun spoken said => by cases said; rfl
          refine placed.moved (by rw [stage]; rfl) (by rw [fields]; rfl) ?_ silent
          rw [shape, positions_append, noMove]
          rfl
      | frame now message stage =>
          obtain ⟨position, speech⟩ := (before.fields.onRemote_cases now message).position
          have answers := way (movedTo (before.fields, message)) rfl speech
          refine placed.moved (by rw [stage]; rfl) (by rw [fields]; exact position) ?_ answers
          rw [shape, positions_append, noMove, List.append_nil]
          show [(before.fields, message)].filterMap movedTo = _
          cases asked : movedTo (before.fields, message) <;> simp [asked]
      | result now job message stage =>
          obtain ⟨position, speech⟩ := (before.fields.onInner_cases now message).position
          have silent := way none rfl speech
          refine placed.moved (by rw [stage]; rfl) (by rw [fields]; exact position) ?_ silent
          rw [shape, positions_append, noMove]
          rfl

theorem reaches_placed (run : (machine (service keepAliveTimeout)).Reaches task history) :
    Placed task history := by
  apply run.invariant
  · rintro state ⟨sessionId, kick, now, rfl⟩
    exact ⟨rfl, List.prefix_refl _, fun _ => rfl⟩
  · intro before history event after seen _ placed taken
    exact placed.stepped (Task.step_cases taken)

end RustGameserver.GameServer
