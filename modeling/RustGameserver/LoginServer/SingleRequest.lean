import RustGameserver.LoginServer.Requests
import RustGameserver.Session.Once

/-!
Contract: a LoginServer session whose client asks once.

Owns:
- what a session does only for a login request, or for the result of one;
- that the limit of login attempts is not met by a first request.

Does not own: that the client asks once.
-/

namespace RustGameserver.LoginServer

open RustGameserver.Foundation
open RustGameserver.Net
open RustGameserver.Proto
open RustGameserver.Session

/-- The payload tells the client that it has asked too often. -/
def isRateLimited : Payload → Bool
  | .loginResponse body => body.errorCode = LoginErrorCode.rateLimited.toInt32
  | _ => false

namespace Session

variable {session : Session} {now : Nat} {message : MessageWrapper} {outcome : LoginOutcome}
  {reaction : Reaction Session Work} {payload : Payload}

theorem Handles.prompted (handles : session.Handles now message reaction) :
    (∀ payload, reaction.payload = some payload → isGreeting payload = false) ∧
      reaction.authenticates = false ∧
      (reaction.spawns = true → isLoginRequest message = true) := by
  cases handles with
  | lookedUp req asked =>
      exact ⟨by simp [Reaction.payload], rfl, fun _ => by simp [isLoginRequest, asked]⟩
  | _ => exact ⟨by simp [Reaction.payload, isGreeting], rfl, fun spawns => by contradiction⟩

theorem Answers.prompted (answers : session.Answers now outcome reaction) :
    (∀ payload, reaction.payload = some payload → isGreeting payload = false) ∧
      reaction.spawns = false := by
  cases answers <;> exact ⟨by simp [Reaction.payload, isGreeting], rfl⟩

/-- Only an unauthenticated session stops, at a message that does not pass its gate. -/
theorem Handles.stops (handles : session.Handles now message reaction) {fields : Session}
    (stops : reaction = .stop fields) :
    passesGate message.payload = false ∧ session.account = none := by
  cases handles with
  | gated other anonymous => exact ⟨other, anonymous⟩
  | _ => contradiction

/-- Only a login request is refused for the limit, and only if the limit is met. -/
theorem Handles.spent (handles : session.Handles now message reaction)
    (sends : reaction.payload = some payload) (limited : isRateLimited payload = true) :
    isLoginRequest message = true ∧ (session.tryConsumeLoginAttempt now).2 = false := by
  cases handles with
  | limited req asked anonymous spent => exact ⟨by simp [isLoginRequest, asked], spent⟩
  | refused | blank =>
      cases sends
      contradiction
  | lookedUp | keptAlive | gated | ignored => contradiction

theorem Answers.spent (answers : session.Answers now outcome reaction)
    (sends : reaction.payload = some payload) (limited : isRateLimited payload = true) :
    outcome = .failure .rateLimited := by
  cases answers with
  | authenticated account token =>
      cases sends
      contradiction
  | failed code =>
      cases sends
      cases code <;> first | rfl | contradiction
  | dbError =>
      cases sends
      contradiction

/-- An attempt counts as one. -/
theorem attempts_le (session : Session) (now : Nat) :
    (session.tryConsumeLoginAttempt now).1.loginAttempts.toNat ≤
      session.loginAttempts.toNat + 1 := by
  unfold tryConsumeLoginAttempt
  simp only
  split
  · simp
  · rw [UInt32.toNat_add]
    exact Nat.mod_le _ _

theorem Handles.attempts (handles : session.Handles now message reaction) :
    reaction.fields.loginAttempts.toNat ≤
      session.loginAttempts.toNat + (isLoginRequest message).toNat := by
  cases handles with
  | limited req asked | blank req asked | lookedUp req asked =>
      rw [show isLoginRequest message = true by simp [isLoginRequest, asked]]
      exact session.attempts_le now
  | refused | keptAlive | gated | ignored => exact Nat.le_add_right _ _

theorem Answers.attempts (answers : session.Answers now outcome reaction) :
    reaction.fields.loginAttempts = session.loginAttempts := by
  cases answers <;> rfl

/-- The limit is not met by the first attempts. -/
theorem granted_of_few (few : session.loginAttempts.toNat < 5) :
    (session.tryConsumeLoginAttempt now).2 = true := by
  have bound := session.attempts_le now
  have within : (session.tryConsumeLoginAttempt now).1.loginAttempts ≤ loginAttemptsPerWindow := by
    rw [UInt32.le_iff_toNat_le]
    show _ ≤ 5
    omega
  exact decide_eq_true within

end Session

variable {keepAliveTimeout : Nat} {task prepared after : Task Session Work Reply LoginOutcome}
  {history said seen : List (Seen Session Work Reply LoginOutcome)}

theorem prompted (keepAliveTimeout : Nat) :
    Prompted (service keepAliveTimeout) isLoginRequest where
  remote_payload := fun session now message => (session.onRemote_cases now message).prompted.1
  inner_payload := fun session now outcome =>
    (session.onLoginOutcome_cases now outcome).prompted.1
  remote_authenticates := fun session now message =>
    (session.onRemote_cases now message).prompted.2.1
  remote_spawns := fun session now message => (session.onRemote_cases now message).prompted.2.2
  inner_spawns := fun session now outcome => (session.onLoginOutcome_cases now outcome).prompted.2

/-- As many attempts have been counted as requests have been handled, at most. -/
theorem reaches_attempts (run : (machine (service keepAliveTimeout)).Reaches task history) :
    task.fields.loginAttempts.toNat ≤ (handledMessages history).countP isLoginRequest := by
  apply run.invariant
  · rintro state ⟨sessionId, kick, now, rfl⟩
    exact Nat.le_refl 0
  · intro before history event after seen _ bounded taken
    rw [handledMessages_append, List.countP_append]
    cases (Task.step_cases taken).moves with
    | rests rests =>
        rw [rests.fields]
        omega
    | ran takes performed shape =>
        rw [performed.frame_eq.1, shape, handledMessages_append, List.countP_append]
        cases takes with
        | greeting =>
            show before.fields.loginAttempts.toNat ≤ _
            omega
        | frame now message =>
            have attempts := (before.fields.onRemote_cases now message).attempts
            show (before.fields.onRemote now message).fields.loginAttempts.toNat ≤
              _ + ([message].countP isLoginRequest + _)
            rw [List.countP_singleton]
            cases asked : isLoginRequest message with
            | false =>
                rw [asked, Bool.toNat_false] at attempts
                omega
            | true =>
                rw [asked, Bool.toNat_true] at attempts
                rw [if_pos rfl]
                omega
        | result now job outcome =>
            have attempts := (before.fields.onLoginOutcome_cases now outcome).attempts
            show (before.fields.onLoginOutcome now outcome).fields.loginAttempts.toNat ≤ _
            rw [attempts]
            omega

/-- A login task does not return that the limit is met. -/
theorem authenticate_unlimited {work : Work} {reply : Reply} {code : LoginErrorCode}
    (returns : authenticate work reply = some (.returns (.failure code))) :
    code ≠ .rateLimited := by
  rintro rfl
  unfold authenticate at returns
  split at returns
  · split at returns <;> cases returns
  · split at returns
    · split at returns <;> cases returns
    · cases returns
    · cases returns
  · split at returns <;> cases returns
  · split at returns <;> cases returns
  · cases returns

/-- The reaction to the input of a session that has handled a single login request does
not tell that the limit is met. -/
theorem takes_unlimited (run : (machine (service keepAliveTimeout)).Reaches task history)
    {cause : Cause} {reaction : Reaction Session Work}
    (takes : Task.Takes (service keepAliveTimeout) task prepared said cause reaction)
    (single : (handledMessages history).countP isLoginRequest +
      (handledMessages said).countP isLoginRequest ≤ 1)
    {payload : Payload} (hands : reaction.payload = some payload) :
    isRateLimited payload = false := by
  by_contra limited
  rw [Bool.not_eq_false] at limited
  cases takes with
  | greeting =>
      cases hands
      contradiction
  | frame now message =>
      obtain ⟨asked, spent⟩ := (task.fields.onRemote_cases now message).spent hands limited
      have attempts := reaches_attempts run
      have first : (handledMessages [(.handled task.fields message :
          Seen Session Work Reply LoginOutcome)]).countP isLoginRequest = 1 := by
        show [message].countP isLoginRequest = 1
        rw [List.countP_singleton, if_pos asked]
      rw [Session.granted_of_few (by omega)] at spent
      contradiction
  | @result inner now job outcome stage later received =>
      have limits := (task.fields.onLoginOutcome_cases now outcome).spent hands limited
      rw [limits] at received
      have queue := (Channel.tryRecv_some received).1
      have tracked := reaches_tracked run
      obtain ⟨record, present, ended⟩ :=
        tracked.delivered job (.failure .rateLimited) (by simp [queue])
      obtain ⟨work, reply, returns⟩ :=
        (tracked.recorded job record present).ran.returns (.inr ended)
      exact authenticate_unlimited returns rfl

/-- A session that handles a single login request never answers that the limit is met. -/
theorem never_limited (run : (machine (service keepAliveTimeout)).Reaches task history)
    (single : (handledMessages history).countP isLoginRequest ≤ 1) :
    ∀ payload ∈ accepted history, isRateLimited payload = false := by
  revert single
  apply run.invariant
  · intro state _ _
    nofun
  · intro before history event after seen run known taken single payload member
    rw [handledMessages_append, List.countP_append] at single
    rw [accepted_append, List.mem_append] at member
    rcases member with member | member
    · exact known (by omega) payload member
    cases (Task.step_cases taken).moves with
    | rests rests =>
        rw [accepted_of_silent rests.silent] at member
        contradiction
    | @ran prepared said more cause reaction takes performed shape =>
        have silent : accepted said = [] := by
          cases takes <;> rfl
        rw [shape, accepted_append, silent, List.nil_append] at member
        rw [shape, handledMessages_append, List.countP_append] at single
        have hands := (accepted_performed performed).subset member
        rw [Option.mem_toList] at hands
        exact takes_unlimited run takes (by omega) hands

end RustGameserver.LoginServer
