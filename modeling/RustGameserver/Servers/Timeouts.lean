import RustGameserver.GameServer.Session
import RustGameserver.LoginServer.Session
import RustGameserver.Session.KeepAlive

/-!
Contract: the KeepAlive timeout of the two servers.

Owns:
- that the handlers of both servers keep the time of the last KeepAlive;
- that the timeout never comes early, on either server;
- that a GameServer session outlives its timeout exactly when messages or results
  are ready all the time, with a client that does so.
-/

namespace RustGameserver.GameServer

open RustGameserver.Net
open RustGameserver.Proto
open RustGameserver.Session

theorem Session.Handles.lastKeepAlive {session : Session} {now : Nat} {message : MessageWrapper}
    {reaction : Reaction Session Work} (handles : session.Handles now message reaction) :
    reaction.fields.lastKeepAlive =
      if message.payload = some .keepAliveRequest ∨ reaction.renews = true then now
      else session.lastKeepAlive := by
  cases handles with
  | rejected req asked => simp [asked, Reaction.fields, Reaction.renews]
  | lookedUp req asked => simp [asked, Reaction.fields, Reaction.renews]
  | keptAlive asked => simp [asked, Reaction.fields]
  | moved req account asked => simp [asked, Reaction.fields, Reaction.renews]
  | entered req account asked => simp [asked, Reaction.fields, Reaction.renews]
  | reported report account asked => simp [asked, Reaction.fields, Reaction.renews]
  | gated other | ignored account other =>
      have different : message.payload ≠ some .keepAliveRequest := by
        intro same
        rw [same] at other
        contradiction
      simp [different, Reaction.fields, Reaction.renews]

theorem Session.Answers.lastKeepAlive {session : Session} {now : Nat} {message : InnerMessage}
    {reaction : Reaction Session Work} (answers : session.Answers now message reaction) :
    reaction.fields.lastKeepAlive =
      if reaction.renews = true then now else session.lastKeepAlive := by
  cases answers <;> rfl

theorem keepsTime (keepAliveTimeout : Nat) : KeepsTime (service keepAliveTimeout) where
  created := fun _ _ => rfl
  remote := fun session now message => (session.onRemote_cases now message).lastKeepAlive
  inner := fun session now message => (session.onInner_cases now message).lastKeepAlive

end RustGameserver.GameServer

namespace RustGameserver.LoginServer

open RustGameserver.Net
open RustGameserver.Proto
open RustGameserver.Session

theorem Session.Handles.lastKeepAlive {session : Session} {now : Nat} {message : MessageWrapper}
    {reaction : Reaction Session Work} (handles : session.Handles now message reaction) :
    reaction.fields.lastKeepAlive =
      if message.payload = some .keepAliveRequest ∨ reaction.renews = true then now
      else session.lastKeepAlive := by
  have kept := session.tryConsumeLoginAttempt_lastKeepAlive now
  cases handles with
  | refused req account asked => simp [asked, Reaction.fields, Reaction.renews]
  | limited req asked => simp [asked, Reaction.fields, Reaction.renews, kept]
  | blank req asked => simp [asked, Reaction.fields, Reaction.renews, kept]
  | lookedUp req asked => simp [asked, Reaction.fields, Reaction.renews, kept]
  | keptAlive asked => simp [asked, Reaction.fields]
  | gated other | ignored account other =>
      have different : message.payload ≠ some .keepAliveRequest := by
        intro same
        rw [same] at other
        contradiction
      simp [different, Reaction.fields, Reaction.renews]

theorem Session.Answers.lastKeepAlive {session : Session} {now : Nat} {outcome : LoginOutcome}
    {reaction : Reaction Session Work} (answers : session.Answers now outcome reaction) :
    reaction.fields.lastKeepAlive =
      if reaction.renews = true then now else session.lastKeepAlive := by
  cases answers <;> rfl

theorem keepsTime (keepAliveTimeout : Nat) : KeepsTime (service keepAliveTimeout) where
  created := fun _ _ => rfl
  remote := fun session now message => (session.onRemote_cases now message).lastKeepAlive
  inner := fun session now outcome => (session.onLoginOutcome_cases now outcome).lastKeepAlive

end RustGameserver.LoginServer

namespace RustGameserver.Servers

open RustGameserver.Foundation
open RustGameserver.Net
open RustGameserver.Proto
open RustGameserver.Session

/-- On both servers the timeout comes only to an authenticated session, and only
when it has been silent for long enough. -/
theorem keepAlive_never_early (keepAliveTimeout : Nat) :
    (∀ task history,
      ((machine (GameServer.service keepAliveTimeout)).stamped Task.clock).Reaches task history →
        NeverEarly (GameServer.service keepAliveTimeout) task history) ∧
      ∀ task history,
        ((machine (LoginServer.service keepAliveTimeout)).stamped Task.clock).Reaches task
            history →
          NeverEarly (LoginServer.service keepAliveTimeout) task history :=
  ⟨fun _ _ run => reaches_neverEarly (GameServer.keepsTime keepAliveTimeout) run,
    fun _ _ run => reaches_neverEarly (LoginServer.keepsTime keepAliveTimeout) run⟩

/-- A GameServer session enforces its timeout throughout exactly the runs in which
it is never starved of it. -/
theorem keepAlive_enforced_iff (keepAliveTimeout : Nat) (sessionId : SessionId)
    (kick : KickToken) (now : Nat) (events : List (Event GameServer.Reply)) :
    (machine (GameServer.service keepAliveTimeout)).EachStep
        (Enforces (GameServer.service keepAliveTimeout))
        (.create (GameServer.service keepAliveTimeout) sessionId kick now) events ↔
      (machine (GameServer.service keepAliveTimeout)).EachStep
        (fun task event => ¬ Starves (GameServer.service keepAliveTimeout) task event)
        (.create (GameServer.service keepAliveTimeout) sessionId kick now) events :=
  Machine.eachStep_congr (fun _ _ _ _ taken => enforces_iff taken) _ events

/-- A client authenticates, and then only moves. -/
def streamed : List (Event GameServer.Reply) :=
  [.greet, .poll false, .select 1 (some (.message ⟨0, some (.gameConnectRequest ⟨"t"⟩)⟩)),
    .reply 0 (.token (.ok (some "7:user"))), .deliver 0, .poll false, .select 2 none,
    .poll false]

/-- Long after its deadline the session still handles moves. -/
theorem keepAlive_streamed_false :
    ¬ (machine (GameServer.service 10)).EachStep (Enforces (GameServer.service 10))
      (.create (GameServer.service 10) 1 ⟨0⟩ 0)
      (streamed ++ [.select 100 (some (.message ⟨0, some (.moveRequest ⟨.zero, .zero⟩)⟩))]) := by
  intro each
  have runs : ∃ task history next seen,
      (machine (GameServer.service 10)).exec (.create (GameServer.service 10) 1 ⟨0⟩ 0) streamed =
        some (task, history) ∧
      task.timedOut (GameServer.service 10) 100 = true ∧
      (machine (GameServer.service 10)).step task
        (.select 100 (some (.message ⟨0, some (.moveRequest ⟨.zero, .zero⟩)⟩))) =
          some (next, seen) ∧
      next.stage = .selecting :=
    ⟨_, _, _, _, rfl, rfl, rfl, rfl⟩
  obtain ⟨task, history, next, seen, executed, late, taken, goesOn⟩ := runs
  have enforces := each.at executed taken
  have ended := (enforces 100 _ next seen rfl late taken).1
  rw [goesOn] at ended
  contradiction

end RustGameserver.Servers
