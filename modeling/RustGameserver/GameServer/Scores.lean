import RustGameserver.GameServer.Accounts
import RustGameserver.Session.Gather

/-!
Contract: the scores that the sessions of a GameServer save.

Owns:
- the calls of `save_score` that the tasks of a session have made, against the score
  reports it has handled while authenticated;
- the same for all the sessions of a server together;
- the token behind each account that a score is saved for.

Does not own: whether the database takes a score.
-/

namespace RustGameserver.GameServer

open RustGameserver.Foundation
open RustGameserver.Net
open RustGameserver.Proto
open RustGameserver.Session

variable {keepAliveTimeout : Nat}
  {task prepared before after : Task Session Work Reply InnerMessage}
  {history said more seen : List (Seen Session Work Reply InnerMessage)}

def isSave : Work → Bool
  | .saveScore .. => true
  | .takeAuthToken _ => false

/-- The calls of `save_score` among those that tasks have made or still have to wait
for. -/
def saves (jobs : List (Job Work Reply InnerMessage)) : List Work :=
  jobs.flatMap fun job => job.calls.filter isSave

/-- The score that a message reports, for the account of a session. -/
def scoreOf (before : Session) (message : MessageWrapper) : Option Work :=
  match message.payload, before.account with
  | some (.gameOverReport report), some account =>
      some (.saveScore account.accountId report.score report.killCount report.surviveSeconds)
  | _, _ => none

/-- The score that an observation reports. -/
def reportedScore : Seen Session Work Reply InnerMessage → Option Work
  | .handled before message => scoreOf before message
  | _ => none

/-- The scores reported by the messages of a session, in order. -/
def reportedScores (history : List (Seen Session Work Reply InnerMessage)) : List Work :=
  history.filterMap reportedScore

theorem reportedScores_append (history more : List (Seen Session Work Reply InnerMessage)) :
    reportedScores (history ++ more) = reportedScores history ++ reportedScores more :=
  List.filterMap_append

theorem reportedScores_of_unhandled (silent : ∀ fields message, .handled fields message ∉ seen) :
    reportedScores seen = [] := by
  apply List.filterMap_eq_nil_iff.mpr
  intro entry member
  cases entry with
  | handled fields message => exact absurd member (silent fields message)
  | _ => rfl

/-! ## One session -/

/-- The call of `save_score` that a reaction starts. -/
def Reaction.save : Reaction Session Work → List Work
  | .spawn _ work => [work].filter isSave
  | .proceed _ | .stop _ | .send .. | .authenticate .. => []

/-- A score is saved for the reports of an authenticated session, as received. -/
theorem Session.Handles.save {session : Session} {now : Nat} {message : MessageWrapper}
    {reaction : Reaction Session Work} (handles : session.Handles now message reaction) :
    Reaction.save reaction = (scoreOf session message).toList := by
  cases handles with
  | rejected req asked => simp [scoreOf, asked, Reaction.save]
  | lookedUp req asked => simp [scoreOf, asked, Reaction.save, isSave]
  | keptAlive asked => simp [scoreOf, asked, Reaction.save]
  | gated other anonymous => simp [scoreOf, anonymous, Reaction.save]
  | moved req account asked => simp [scoreOf, asked, Reaction.save]
  | entered req account asked => simp [scoreOf, asked, Reaction.save]
  | reported report account asked authenticated =>
      simp [scoreOf, asked, authenticated, Reaction.save, isSave]
  | ignored account other =>
      have different : ∀ report, message.payload ≠ some (.gameOverReport report) := by
        intro report same
        rw [same] at other
        contradiction
      unfold scoreOf
      split
      · next asked _ => exact absurd asked (different _)
      · rfl

theorem Session.Answers.save {session : Session} {now : Nat} {message : InnerMessage}
    {reaction : Reaction Session Work} (answers : session.Answers now message reaction) :
    Reaction.save reaction = [] := by
  cases answers <;> rfl

theorem performed_saves {cause : Cause} {reaction : Reaction Session Work}
    (performed : Task.Performed task cause reaction after seen) :
    saves after.jobs = saves task.jobs ++ Reaction.save reaction := by
  cases performed with
  | spawn fields work =>
      rw [saves, List.flatMap_append, List.flatMap_singleton]
      rfl
  | _ => exact (List.append_nil _).symm

/-- A task that moves on without another call. -/
theorem saves_set {jobs : List (Job Work Reply InnerMessage)} {index : Nat}
    {job moved : Job Work Reply InnerMessage} (present : jobs[index]? = some job)
    (calls : moved.calls = job.calls) : saves (jobs.set index moved) = saves jobs := by
  obtain ⟨bound, same⟩ := List.getElem?_eq_some_iff.mp present
  have split : jobs = jobs.take index ++ job :: jobs.drop (index + 1) := split_at present
  rw [List.set_eq_take_append_cons_drop, if_pos bound]
  conv_rhs => rw [split]
  simp only [saves, List.flatMap_append, List.flatMap_cons, calls]

theorem saves_stepped (stepped : Task.Stepped (service keepAliveTimeout) before after seen) :
    saves after.jobs = saves before.jobs ++ reportedScores seen := by
  cases stepped with
  | ran takes performed =>
      rw [performed_saves performed, takes.frame_eq.2.2.2.2, reportedScores_append,
        reportedScores_of_unhandled performed.handles_nothing, List.append_nil]
      congr 1
      cases takes with
      | greeting => rfl
      | frame now message =>
          have saved := (before.fields.onRemote_cases now message).save
          show Reaction.save (before.fields.onRemote now message) =
            [Seen.handled before.fields message].filterMap reportedScore
          rw [saved]
          cases scored : scoreOf before.fields message <;> simp [reportedScore, scored]
      | result now job message => exact (before.fields.onInner_cases now message).save
  | awaits index job reply present running resumed => exact absurd resumed (resume_ne_awaits _ _ _)
  | returned index job reply present =>
      refine (saves_set present ?_).trans (List.append_nil _).symm
      rfl
  | delivered index job present =>
      refine (saves_set present ?_).trans (List.append_nil _).symm
      rfl
  | dropped index job present =>
      refine (saves_set present ?_).trans (List.append_nil _).symm
      rfl
  | wrote | recorded =>
      rw [reportedScores_of_unhandled (by simp), List.append_nil]
  | ended =>
      rw [reportedScores_of_unhandled (by simp), List.append_nil]
  | _ => exact (List.append_nil _).symm

/-- A session saves the scores reported to it, each once and in order. -/
theorem reaches_saves (run : (machine (service keepAliveTimeout)).Reaches task history) :
    saves task.jobs = reportedScores history := by
  apply run.invariant
  · rintro state ⟨sessionId, kick, now, rfl⟩
    rfl
  · intro before history event after seen _ saved taken
    rw [saves_stepped (Task.step_cases taken), reportedScores_append, saved]

/-! ## All sessions of a server -/

theorem gathers_saves (keepAliveTimeout : Nat) :
    Gathers (service keepAliveTimeout) (fun task => (saves task.jobs : Multiset Work))
      reportedScore := by
  intro before event after seen taken
  show (saves after.jobs : Multiset Work) = (saves before.jobs : Multiset Work) + _
  rw [Multiset.coe_add, saves_stepped (Task.step_cases taken)]
  rfl

/-- The scores saved by a server are the scores reported to its sessions, each for an
account that the session knows from a token it has taken. -/
theorem scores_attributed {keepAliveTimeout : Nat}
    {state : ServerState Session Work Reply InnerMessage}
    {history : List (ServerSeen Session Work Reply InnerMessage)}
    (run : (server (service keepAliveTimeout)).Reaches state history) :
    -- over all sessions, ended ones and ones with pending tasks among them
    FiniteMap.gather (fun task => (saves task.jobs : Multiset Work)) state.tasks =
        (history.filterMap (ServerSeen.ofAny reportedScore) : Multiset Work) ∧
      -- and for each session by itself
      (∀ sessionId task, state.tasks.get sessionId = some task →
        saves task.jobs = reportedScores (historyOf sessionId history)) ∧
      -- the account was named by a token that this session has taken before
      ∀ earlier sessionId fields message later account,
        history = earlier ++ .session sessionId (.handled fields message) :: later →
          fields.account = some account →
            ∃ job token value, .session sessionId (.spawned job (.takeAuthToken token)) ∈ earlier ∧
              .session sessionId (.replied job (.token (.ok (some value)))) ∈ earlier ∧
              parseTokenValue value = some account := by
  refine ⟨reaches_gathered (fun _ _ _ => rfl) (gathers_saves keepAliveTimeout) run, ?_, ?_⟩
  · intro sessionId task present
    exact reaches_saves (reaches_session run present)
  · intro earlier sessionId fields message later account shape authenticated
    have own : historyOf sessionId history = historyOf sessionId earlier ++
        .handled fields message :: historyOf sessionId later := by
      rw [shape, historyOf, List.filterMap_append,
        List.filterMap_cons_some (by exact if_pos rfl)]
      rfl
    have observed : .handled fields message ∈ historyOf sessionId history := by
      rw [own]
      simp
    obtain ⟨task, present⟩ := (server_projects_session _ sessionId).present run observed
    have session := reaches_session run present
    have last : fields.account = (accounts (historyOf sessionId earlier)).getLast? :=
      reaches_handledAs session (historyOf sessionId earlier) _ _ own
    have member : account ∈ accounts (historyOf sessionId earlier) :=
      List.mem_of_getLast? (last.symm.trans authenticated)
    obtain ⟨job, token, value, spawned, replied, parsed⟩ := accounts_taken session own member
    exact ⟨job, token, value, mem_historyOf.mp spawned, mem_historyOf.mp replied, parsed⟩

/-- A client reports its score, disconnects and leaves its task behind. -/
def reportAndLeave : List (ServerEvent Reply) :=
  [.generate, .accept 1 ⟨0⟩ 0, .session 1 .greet, .session 1 (.poll false),
    .session 1 (.select 1 (some (.message ⟨0, some (.gameConnectRequest ⟨"t"⟩)⟩))),
    .session 1 (.reply 0 (.token (.ok (some "7:user")))), .session 1 (.deliver 0),
    .session 1 (.poll false), .session 1 (.select 2 none), .session 1 (.poll false),
    .session 1 (.select 3 (some (.message ⟨0, some (.gameOverReport ⟨120, 3, 60⟩)⟩))),
    .session 1 (.poll false), .session 1 (.select 4 (some .closed)), .session 1 .remove]

theorem scores_attributed_reportAndLeave :
    ∃ state history, (server (service 10)).exec ⟨.default, .empty, 0, [], [], false⟩
        reportAndLeave = some (state, history) ∧
      history.filterMap (ServerSeen.ofAny reportedScore) = [.saveScore 7 120 3 60] ∧
      FiniteMap.gather (fun task => (saves task.jobs : Multiset Work)) state.tasks =
        {.saveScore 7 120 3 60} := by
  have runs : ∃ state history, (server (service 10)).exec ⟨.default, .empty, 0, [], [], false⟩
        reportAndLeave = some (state, history) ∧
      history.filterMap (ServerSeen.ofAny reportedScore) = [.saveScore 7 120 3 60] :=
    ⟨_, _, rfl, rfl⟩
  obtain ⟨state, history, executed, reported⟩ := runs
  have start : (server (service 10)).Initial ⟨.default, .empty, 0, [], [], false⟩ := rfl
  have run := Machine.reaches_of_exec start executed
  refine ⟨state, history, executed, reported, ?_⟩
  rw [(scores_attributed run).1, reported]
  rfl

end RustGameserver.GameServer
