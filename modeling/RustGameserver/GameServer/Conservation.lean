import RustGameserver.GameServer.Session
import RustGameserver.Session.Accounting
import RustGameserver.Session.Provenance

/-!
Contract: requests and responses of a GameServer session.

Owns:
- which requests are answered through a response or a task, and the balance;
- the echoes of moves and world changes;
- the finished backend call behind each success response.
-/

namespace RustGameserver.GameServer

open RustGameserver.Foundation
open RustGameserver.Net
open RustGameserver.Proto
open RustGameserver.Session

/-- The responses to connection attempts and score reports. -/
def isAnswer : Payload → Bool
  | .gameConnectResponse _ | .gameOverResponse _ | .errorResponse _ => true
  | _ => false

/-- A connection attempt, or a score report of an authenticated session. -/
def isCounted (before : Session) (message : MessageWrapper) : Bool :=
  match message.payload with
  | some (.gameConnectRequest _) => true
  | some (.gameOverReport _) => before.account.isSome
  | _ => false

theorem isCounted_unhandled {before : Session} {message : MessageWrapper}
    (other : unhandled message.payload = true) : isCounted before message = false := by
  unfold isCounted
  split
  · next asked =>
      rw [asked] at other
      contradiction
  · next asked =>
      rw [asked] at other
      contradiction
  · rfl

theorem Session.Handles.load {session : Session} {now load : Nat} {message : MessageWrapper}
    {reaction : Reaction Session Work} (handles : session.Handles now message reaction)
    (adds : reaction.load isAnswer = some load) :
    load = (isCounted session message).toNat := by
  cases handles with
  | rejected req asked => simpa [isCounted, asked, Reaction.load, isAnswer] using adds.symm
  | lookedUp req asked => simpa [isCounted, asked, Reaction.load] using adds.symm
  | keptAlive asked => simpa [isCounted, asked, Reaction.load] using adds.symm
  | gated => contradiction
  | moved req account asked => simpa [isCounted, asked, Reaction.load, isAnswer] using adds.symm
  | entered req account asked => simpa [isCounted, asked, Reaction.load, isAnswer] using adds.symm
  | reported report account asked authenticated =>
      simpa [isCounted, asked, authenticated, Reaction.load] using adds.symm
  | ignored account other =>
      rw [isCounted_unhandled other]
      simpa [Reaction.load] using adds.symm

theorem Session.Answers.load {session : Session} {now load : Nat} {message : InnerMessage}
    {reaction : Reaction Session Work} (answers : session.Answers now message reaction)
    (adds : reaction.load isAnswer = some load) : load = 1 := by
  cases answers <;> simpa [Reaction.load, isAnswer] using adds.symm

/-- A GameServer session answers or delegates each counted request once. -/
def accounting (keepAliveTimeout : Nat) : Accounting (service keepAliveTimeout) where
  request := isCounted
  answer := isAnswer
  greeting := rfl
  remote := fun session now message _ adds => (session.onRemote_cases now message).load adds
  result := fun session now message _ adds => (session.onInner_cases now message).load adds

/-! ## Echoes -/

/-- The responses to moves and world changes. -/
def isEcho : Payload → Bool
  | .moveResponse _ | .enterWorldResponse _ => true
  | _ => false

/-- The response that a move or a world change asks for. -/
def echo (message : MessageWrapper) : Option Payload :=
  match message.payload with
  | some (.moveRequest req) => some (.moveResponse ⟨true, req.x, req.y⟩)
  | some (.enterWorldRequest _) => some (.enterWorldResponse ⟨true⟩)
  | _ => none

theorem echo_unhandled {message : MessageWrapper} (other : unhandled message.payload = true) :
    echo message = none := by
  unfold echo
  split
  · next asked =>
      rw [asked] at other
      contradiction
  · next asked =>
      rw [asked] at other
      contradiction
  · rfl

theorem Session.Handles.echoes {session : Session} {now : Nat} {message : MessageWrapper}
    {reaction : Reaction Session Work} (handles : session.Handles now message reaction)
    {said : List Payload} (spoken : reaction.said = some said) :
    said.filter isEcho = (echo message).toList := by
  cases handles with
  | rejected req asked => cases spoken; simp [echo, asked, isEcho]
  | lookedUp req asked => cases spoken; simp [echo, asked]
  | keptAlive asked => cases spoken; simp [echo, asked]
  | gated => contradiction
  | moved req account asked => cases spoken; simp [echo, asked, isEcho]
  | entered req account asked => cases spoken; simp [echo, asked, isEcho]
  | reported report account asked => cases spoken; simp [echo, asked]
  | ignored account other => cases spoken; simp [echo_unhandled other]

theorem Session.Answers.echoes {session : Session} {now : Nat} {message : InnerMessage}
    {reaction : Reaction Session Work} (answers : session.Answers now message reaction)
    {said : List Payload} (spoken : reaction.said = some said) : said.filter isEcho = [] := by
  cases answers <;> cases spoken <;> rfl

variable {keepAliveTimeout : Nat} {task before after : Task Session Work Reply InnerMessage}
  {history seen : List (Seen Session Work Reply InnerMessage)}

/-- The echoes sent are the echoes asked for, in order. -/
def Echoes (task : Task Session Work Reply InnerMessage)
    (history : List (Seen Session Work Reply InnerMessage)) : Prop :=
  task.stage.inLoop = true →
    (accepted history).filter isEcho = (handled history).filterMap fun entry => echo entry.2

theorem Echoes.stepped (echoes : Echoes before history)
    (stepped : Task.Stepped (service keepAliveTimeout) before after seen) :
    Echoes after (history ++ seen) := by
  intro inLoop
  cases stepped.moves with
  | ran takes performed shape =>
      obtain ⟨spoken, nothing⟩ := performed.said inLoop
      have even := echoes takes.inLoop
      rw [shape, accepted_append, handled_append, accepted_append, handled_append, nothing,
        List.filter_append, List.filterMap_append, even]
      congr 1
      cases takes with
      | greeting =>
          rw [Reaction.said, Option.some.injEq] at spoken
          rw [← spoken]
          rfl
      | frame now message =>
          have echoed := (before.fields.onRemote_cases now message).echoes spoken
          show (accepted _).filter isEcho = [(before.fields, message)].filterMap _
          rw [echoed]
          cases asked : echo message <;> simp [asked]
      | result now job message =>
          exact (before.fields.onInner_cases now message).echoes spoken
  | rests rests =>
      rw [accepted_append, handled_append, accepted_of_silent rests.silent,
        handled_of_silent rests.silent, List.append_nil, List.append_nil]
      exact echoes (rests.inLoop inLoop)

theorem reaches_echoes (run : (machine (service keepAliveTimeout)).Reaches task history) :
    Echoes task history := by
  apply run.invariant
  · rintro state ⟨sessionId, kick, now, rfl⟩ _
    rfl
  · intro before history event after seen _ echoes taken
    exact echoes.stepped (Task.step_cases taken)

/-! ## What stands behind a success response -/

theorem resume_ne_awaits (work next : Work) (reply : Reply) :
    resume work reply ≠ some (.awaits next) := by
  cases work <;> cases reply with
  | _ result => cases result <;> simp [resume]

/-- The two programs a session spawns make one call each. -/
theorem ran_single {job : Job Work Reply InnerMessage}
    (ran : job.Ran (service keepAliveTimeout)) :
    (∀ work, job.state = .running work → job.calls = [work] ∧ job.replies = []) ∧
      ∀ message, job.state = .finished message ∨ job.state = .ended message →
        ∃ work reply, job.calls = [work] ∧ job.replies = [reply] ∧
          resume work reply = some (.returns message) := by
  induction ran with
  | spawned work => simp
  | @awaits job work next reply ran running resumed inductionHypothesis =>
      exact absurd resumed (resume_ne_awaits work next reply)
  | @returned job work reply message ran running resumed inductionHypothesis =>
      obtain ⟨calls, replies⟩ := inductionHypothesis.1 work running
      refine ⟨by simp, fun found same => ⟨work, reply, calls, by rw [replies]; rfl, ?_⟩⟩
      rcases same with same | same
      · rw [JobState.finished.injEq] at same
        rw [← same]
        exact resumed
      · contradiction
  | @ended job message ran finished inductionHypothesis =>
      refine ⟨by simp, fun found same => ?_⟩
      rcases same with same | same
      · contradiction
      · rw [JobState.ended.injEq] at same
        rw [← same]
        exact inductionHypothesis.2 message (.inl finished)

/-- Behind a result that a session consumes stands a call of its own task. -/
theorem finished_call (run : (machine (service keepAliveTimeout)).Reaches task history)
    (front back : List (Seen Session Work Reply InnerMessage)) {job : Nat}
    {message : InnerMessage} (shape : history = front ++ .consumed job message :: back) :
    ∃ work reply, .spawned job work ∈ front ∧ .replied job reply ∈ front ∧
      resume work reply = some (.returns message) := by
  obtain ⟨record, recorded, ended⟩ := reaches_justified run front _ back shape
  obtain ⟨work, reply, calls, replies, returns⟩ :=
    (ran_single recorded.ran).2 message (.inr ended)
  obtain ⟨first, head, spawned⟩ := recorded.spawned
  rw [calls, List.head?_cons, Option.some.injEq] at head
  rw [← head] at spawned
  exact ⟨work, reply, spawned, recorded.replied reply (by simp [replies]), returns⟩

theorem resume_scoreSaved {work : Work} {reply : Reply}
    (returns : resume work reply = some (.returns .scoreSaved)) :
    ∃ accountId score killCount surviveSeconds,
      work = .saveScore accountId score killCount surviveSeconds ∧ reply = .saved (.ok ()) := by
  cases work <;> cases reply with
  | _ result => cases result <;> simp_all [resume]

theorem resume_tokenTaken {work : Work} {reply : Reply} {value : Option String}
    (returns : resume work reply = some (.returns (.tokenTaken value))) :
    ∃ token, work = .takeAuthToken token ∧ reply = .token (.ok value) := by
  cases work <;> cases reply with
  | _ result => cases result <;> simp_all [resume]

/-- The occasions on which a session sends a payload. -/
inductive Occasion : List (Seen Session Work Reply InnerMessage) → Cause → Payload → Prop where
  | connected : Occasion [] .connection (.connectedResponse ⟨0⟩)
  | prompt (front : List (Seen Session Work Reply InnerMessage)) {session fields : Session}
      {now : Nat} {message : MessageWrapper} {payload : Payload}
      (handles : session.Handles now message (.send fields payload)) :
      Occasion (front ++ [.handled session message]) .frame payload
  | result (front : List (Seen Session Work Reply InnerMessage)) {session fields : Session}
      {now job : Nat} {message : InnerMessage} {payload : Payload}
      (answers : session.Answers now message (.send fields payload)) :
      Occasion (front ++ [.consumed job message]) (.result job) payload
  | authenticated (front : List (Seen Session Work Reply InnerMessage)) (fields : Session)
      (job : Nat) (value : String) (account : Account)
      (parsed : parseTokenValue value = some account) (becomes : fields.account = some account) :
      Occasion
        (front ++ [.consumed job (.tokenTaken (some value)),
          .authenticate fields account.userId])
        (.result job) (.gameConnectResponse ⟨true, 0⟩)

/-- The service's two handlers, with an arbitrary reaction. -/
theorem handles_of_eq {session : Session} {now : Nat} {message : MessageWrapper}
    {reaction : Reaction Session Work}
    (same : reaction = (service keepAliveTimeout).onRemote session now message) :
    session.Handles now message reaction := by
  rw [same]
  exact session.onRemote_cases now message

theorem answers_of_eq {session : Session} {now : Nat} {message : InnerMessage}
    {reaction : Reaction Session Work}
    (same : reaction = (service keepAliveTimeout).onInner session now message) :
    session.Answers now message reaction := by
  rw [same]
  exact session.onInner_cases now message

/-- A session registers an account only because a token was found whose value
names it. -/
theorem input_authenticate {fields : Session} {userId : String} {cause : Cause} {payload : Payload}
    (input : Input (service keepAliveTimeout) history cause
      (.authenticate fields userId payload)) :
    ∃ front job value account, history = front ++ [.consumed job (.tokenTaken (some value))] ∧
      cause = .result job ∧ payload = .gameConnectResponse ⟨true, 0⟩ ∧
      parseTokenValue value = some account ∧ fields.account = some account ∧
      userId = account.userId := by
  generalize shape : Reaction.authenticate fields userId payload = reaction at input
  cases input with
  | connection => cases shape
  | frame front other now message =>
      have handles := handles_of_eq shape
      cases handles
  | result front other now job message =>
      have answers := answers_of_eq shape
      cases answers with
      | authenticated value account parsed =>
          exact ⟨front, job, value, account, rfl, rfl, rfl, parsed, rfl, rfl⟩

theorem occasion_of_sends {cause : Cause} {payload : Payload}
    (sends : Sends (service keepAliveTimeout) history cause payload) :
    Occasion history cause payload := by
  rcases sends with ⟨fields, input⟩ | ⟨front, fields, userId, rfl, input⟩
  · generalize shape : Reaction.send fields payload = reaction at input
    cases input with
    | connection =>
        cases shape
        exact .connected
    | frame front other now message => exact .prompt front (handles_of_eq shape)
    | result front other now job message => exact .result front (answers_of_eq shape)
  · obtain ⟨before, job, value, account, rfl, rfl, rfl, parsed, becomes, rfl⟩ :=
      input_authenticate input
    rw [List.append_assoc]
    exact .authenticated before fields job value account parsed becomes

/-- A GameOverResponse directly follows a result `ScoreSaved`. -/
theorem occasion_gameOverResponse {cause : Cause} {body : GameOverResponse}
    (occasion : Occasion history cause (.gameOverResponse body)) :
    ∃ front job, cause = .result job ∧ history = front ++ [.consumed job .scoreSaved] := by
  cases occasion with
  | prompt front handles => cases handles
  | result front answers =>
      cases answers with
      | saved => exact ⟨front, _, rfl, rfl⟩

/-- A success GameConnectResponse follows a result that carries a value. -/
theorem occasion_gameConnectResponse {cause : Cause} {body : GameConnectResponse}
    (occasion : Occasion history cause (.gameConnectResponse body))
    (success : body.success = true) :
    ∃ front back job value, cause = .result job ∧
      history = front ++ .consumed job (.tokenTaken (some value)) :: back := by
  cases occasion with
  | prompt front handles => cases handles; contradiction
  | result front answers => cases answers; contradiction
  | authenticated front fields job value => exact ⟨front, _, job, value, rfl, rfl⟩

/-- No request of a session is lost, answered twice or answered without cause. -/
theorem requests_conserved {keepAliveTimeout : Nat}
    {task : Task Session Work Reply InnerMessage}
    {history : List (Seen Session Work Reply InnerMessage)}
    (run : (machine (service keepAliveTimeout)).Reaches task history) :
    -- every counted request is answered once, or still has its task or result
    (task.stage.inLoop = true →
      (accepted history).countP isAnswer +
          (task.jobs.countP Job.pending + task.inner.queue.length) =
        (handled history).countP fun entry => isCounted entry.1 entry.2) ∧
      -- echoes equal the requests handled, in order and with the same coordinates
      (task.stage.inLoop = true →
        (accepted history).filter isEcho =
          (handled history).filterMap fun entry => echo entry.2) ∧
      -- a KeepAliveRequest is followed by no reaction
      (∀ earlier before message entry later,
        history = earlier ++ .handled before message :: entry :: later →
          message.payload = some .keepAliveRequest → entry.ofReaction = false) ∧
      -- each success response has its own call, which has succeeded before
      (∀ earlier cause body later,
        history = earlier ++ .accepted cause (.gameOverResponse body) :: later →
          ∃ job accountId score killCount surviveSeconds, cause = .result job ∧
            .spawned job (.saveScore accountId score killCount surviveSeconds) ∈ earlier ∧
            .replied job (.saved (.ok ())) ∈ earlier) ∧
      (∀ earlier cause body later,
        history = earlier ++ .accepted cause (.gameConnectResponse body) :: later →
          body.success = true →
            ∃ job token value, cause = .result job ∧
              .spawned job (.takeAuthToken token) ∈ earlier ∧
              .replied job (.token (.ok (some value))) ∈ earlier) ∧
      (answeredJobs history).Nodup ∧ (spawnedJobs history).Nodup := by
  have justified := reaches_justified run
  refine ⟨(accounting keepAliveTimeout).balance run, reaches_echoes run, ?_, ?_, ?_,
    answeredJobs_nodup run, ?_⟩
  · intro earlier before message entry later shape asked
    have because := justified (earlier ++ [.handled before message]) entry later
      (by rw [shape]; simp)
    by_contra reacts
    rw [Bool.not_eq_false] at reacts
    obtain ⟨now, reaction⟩ := because.of_handled reacts
    have proceeds : (service keepAliveTimeout).onRemote before now message =
        .proceed { before with lastKeepAlive := now } := by
      show before.onRemote now message = _
      simp [Session.onRemote, asked]
    rw [proceeds] at reaction
    simp at reaction
  · intro earlier cause body later shape
    have occasion := occasion_of_sends (justified earlier _ later shape)
    obtain ⟨front, job, isResult, rfl⟩ := occasion_gameOverResponse occasion
    obtain ⟨work, reply, spawned, replied, returns⟩ :=
      finished_call run front _ (by rw [shape, List.append_assoc]; rfl)
    obtain ⟨accountId, score, killCount, surviveSeconds, rfl, rfl⟩ := resume_scoreSaved returns
    exact ⟨job, accountId, score, killCount, surviveSeconds, isResult,
      List.mem_append_left _ spawned, List.mem_append_left _ replied⟩
  · intro earlier cause body later shape success
    have occasion := occasion_of_sends (justified earlier _ later shape)
    obtain ⟨front, back, job, value, isResult, rfl⟩ :=
      occasion_gameConnectResponse occasion success
    obtain ⟨work, reply, spawned, replied, returns⟩ :=
      finished_call run front _ (by rw [shape, List.append_assoc]; rfl)
    obtain ⟨token, rfl, rfl⟩ := resume_tokenTaken returns
    exact ⟨job, token, value, isResult, List.mem_append_left _ spawned,
      List.mem_append_left _ replied⟩
  · rw [spawnedJobs_eq_range run]
    exact List.nodup_range

/-- One token is looked up and accepted while a second lookup is still running. -/
def twoLookups : List (Event Reply) :=
  [.greet, .poll false, .select 1 (some (.message ⟨0, some (.gameConnectRequest ⟨"a"⟩)⟩)),
    .poll false, .select 2 (some (.message ⟨0, some (.gameConnectRequest ⟨"b"⟩)⟩)),
    .reply 0 (.token (.ok (some "7:user"))), .deliver 0, .poll false, .select 3 none]

theorem requests_conserved_twoLookups :
    ∃ task history,
      (machine (service 10)).exec (.create (service 10) 1 ⟨0⟩ 0) twoLookups =
        some (task, history) ∧
      accepted history = [.connectedResponse ⟨0⟩, .gameConnectResponse ⟨true, 0⟩] ∧
      (accepted history).countP isAnswer +
          (task.jobs.countP Job.pending + task.inner.queue.length) =
        (handled history).countP fun entry => isCounted entry.1 entry.2 := by
  have runs : ∃ task history,
      (machine (service 10)).exec (.create (service 10) 1 ⟨0⟩ 0) twoLookups =
        some (task, history) ∧
      accepted history = [.connectedResponse ⟨0⟩, .gameConnectResponse ⟨true, 0⟩] ∧
      task.stage.inLoop = true :=
    ⟨_, _, rfl, rfl, rfl⟩
  obtain ⟨task, history, executed, said, inLoop⟩ := runs
  have start : (machine (service 10)).Initial (.create (service 10) 1 ⟨0⟩ 0) := ⟨1, ⟨0⟩, 0, rfl⟩
  have run := Machine.reaches_of_exec start executed
  exact ⟨task, history, executed, said, (requests_conserved run).1 inLoop⟩

end RustGameserver.GameServer
