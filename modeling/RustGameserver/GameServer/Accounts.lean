import RustGameserver.GameServer.Conservation
import RustGameserver.Session.KeepAlive
import RustGameserver.Session.Reactions

/-!
Contract: which accounts a GameServer session has been, and from where it knows
them.

Owns:
- the accounts a session has authenticated as, in order, the last of which it is;
- that each of them was read from the value of a token the session has taken.

Does not own: who stored the value under the token.
-/

namespace RustGameserver.GameServer

open RustGameserver.Foundation
open RustGameserver.Net
open RustGameserver.Proto
open RustGameserver.Session

variable {keepAliveTimeout : Nat}
  {task prepared before after : Task Session Work Reply InnerMessage}
  {history said more seen : List (Seen Session Work Reply InnerMessage)}

/-- The account with which an observed authentication leaves the session. -/
def authenticatedAccount : Seen Session Work Reply InnerMessage → Option Account
  | .authenticate fields _ => fields.account
  | _ => none

/-- The accounts the session has authenticated as, in order. -/
def accounts (history : List (Seen Session Work Reply InnerMessage)) : List Account :=
  history.filterMap authenticatedAccount

@[simp] theorem accounts_append (history more : List (Seen Session Work Reply InnerMessage)) :
    accounts (history ++ more) = accounts history ++ accounts more :=
  List.filterMap_append

theorem accounts_of_silent (silent : ∀ entry ∈ seen, entry.ofHandler = false) :
    accounts seen = [] := by
  apply filterMap_of_silent silent
  intro entry quiet
  cases entry <;> first | rfl | contradiction

/-! ## The account of the session -/

theorem Session.Handles.account {session : Session} {now : Nat} {message : MessageWrapper}
    {reaction : Reaction Session Work} (handles : session.Handles now message reaction) :
    reaction.renews = false ∧ reaction.fields.account = session.account := by
  cases handles <;> exact ⟨rfl, rfl⟩

theorem Session.Answers.account {session : Session} {now : Nat} {message : InnerMessage}
    {reaction : Reaction Session Work} (answers : session.Answers now message reaction) :
    if reaction.renews then ∃ account, reaction.fields.account = some account
    else reaction.fields.account = session.account := by
  cases answers with
  | authenticated value account => exact ⟨account, rfl⟩
  | _ => rfl

theorem takes_account {cause : Cause} {reaction : Reaction Session Work}
    (takes : Task.Takes (service keepAliveTimeout) task prepared said cause reaction) :
    if reaction.renews then ∃ account, reaction.fields.account = some account
    else reaction.fields.account = task.fields.account := by
  cases takes with
  | greeting => rfl
  | frame now message =>
      obtain ⟨plain, same⟩ := (task.fields.onRemote_cases now message).account
      rw [show (service keepAliveTimeout).onRemote task.fields now message =
        task.fields.onRemote now message from rfl, plain]
      exact same
  | result now job message => exact (task.fields.onInner_cases now message).account

/-- Carrying out a reaction that authenticates is observed as an authentication. -/
theorem performed_accounts {cause : Cause} {reaction : Reaction Session Work}
    (performed : Task.Performed task cause reaction after seen) :
    accounts seen = if reaction.renews then reaction.fields.account.toList else [] := by
  cases performed with
  | authenticate fields userId payload =>
      show List.filterMap _ _ = fields.account.toList
      cases held : fields.account <;> simp [authenticatedAccount, held]
  | authenticateRefuse fields userId payload =>
      show List.filterMap _ _ = fields.account.toList
      cases held : fields.account <;> simp [authenticatedAccount, held]
  | _ => rfl

/-- A session is the account it authenticated as last. -/
theorem account_stepped (known : before.fields.account = (accounts history).getLast?)
    (stepped : Task.Stepped (service keepAliveTimeout) before after seen) :
    after.fields.account = (accounts (history ++ seen)).getLast? := by
  rw [accounts_append]
  cases stepped.moves with
  | rests rests =>
      rw [rests.fields, accounts_of_silent rests.silent, List.append_nil]
      exact known
  | @ran prepared said more cause reaction takes performed shape =>
      have silent : accounts said = [] := by
        cases takes <;> rfl
      have account := takes_account takes
      rw [performed.frame_eq.1, shape, accounts_append, silent, List.nil_append,
        performed_accounts performed]
      cases renews : reaction.renews with
      | false =>
          simp only [renews, Bool.false_eq_true, if_false] at account ⊢
          rw [account, List.append_nil]
          exact known
      | true =>
          simp only [renews, if_true] at account ⊢
          obtain ⟨found, held⟩ := account
          rw [held, Option.toList_some, List.getLast?_append]
          rfl

theorem reaches_account (run : (machine (service keepAliveTimeout)).Reaches task history) :
    task.fields.account = (accounts history).getLast? := by
  apply run.invariant
  · rintro state ⟨sessionId, kick, now, rfl⟩
    rfl
  · intro before history event after seen _ known taken
    exact account_stepped known (Task.step_cases taken)

/-- The fields a message is handled with are those of the last authentication before. -/
def HandledAs (earlier : List (Seen Session Work Reply InnerMessage)) :
    Seen Session Work Reply InnerMessage → Prop
  | .handled before _ => before.account = (accounts earlier).getLast?
  | _ => True

theorem handledAs_of_silent (silent : ∀ fields message, .handled fields message ∉ seen) :
    ∀ earlier, ∀ entry ∈ seen, HandledAs earlier entry := by
  intro earlier entry member
  cases entry with
  | handled fields message => exact absurd member (silent fields message)
  | _ => trivial

theorem reaches_handledAs (run : (machine (service keepAliveTimeout)).Reaches task history) :
    Justified HandledAs history := by
  apply run.invariant
  · intro state _
    exact Justified.nil
  · intro before history event after seen run justified taken
    have known := reaches_account run
    cases (Task.step_cases taken).moves with
    | rests rests =>
        exact justified.append_free (handledAs_of_silent rests.unhandled)
    | @ran prepared said more cause reaction takes performed shape =>
        have reacting := handledAs_of_silent performed.handles_nothing
        rw [shape, ← List.append_assoc]
        refine Justified.append_free ?_ reacting
        cases takes with
        | greeting => simpa using justified
        | frame now message => exact justified.snoc known
        | result now job message => exact justified.snoc trivial

/-! ## Where accounts come from -/

/-- An account was named by the value of a token that the session has taken. -/
theorem accounts_taken (run : (machine (service keepAliveTimeout)).Reaches task history)
    {earlier later : List (Seen Session Work Reply InnerMessage)}
    (shape : history = earlier ++ later) {account : Account} (member : account ∈ accounts earlier) :
    ∃ job token value, .spawned job (.takeAuthToken token) ∈ earlier ∧
      .replied job (.token (.ok (some value))) ∈ earlier ∧
      parseTokenValue value = some account := by
  obtain ⟨entry, among, found⟩ := List.mem_filterMap.mp member
  cases entry with
  | authenticate fields userId =>
      obtain ⟨front, back, rfl⟩ := List.append_of_mem among
      obtain ⟨cause, payload, input⟩ := reaches_justified run front (.authenticate fields userId)
        (back ++ later) (by rw [shape]; simp)
      obtain ⟨start, job, value, named, rfl, _, _, parsed, becomes, _⟩ := input_authenticate input
      rw [authenticatedAccount, becomes, Option.some.injEq] at found
      have split : history = start ++ .consumed job (.tokenTaken (some value)) ::
          (.authenticate fields userId :: back ++ later) := by
        rw [shape]
        simp
      obtain ⟨work, reply, spawned, replied, returns⟩ := finished_call run start _ split
      obtain ⟨token, rfl, rfl⟩ := resume_tokenTaken returns
      rw [found] at parsed
      exact ⟨job, token, value, by simp [spawned], by simp [replied], parsed⟩
  | _ => contradiction

end RustGameserver.GameServer
