import RustGameserver.Foundation.History
import RustGameserver.Session.Server

/-!
Contract: which session owns a user id.

Owns:
- what a step of a session means for the registry;
- the invariant that ties the registry, the tokens and the accounts of the
  session tasks together.

Does not own: the re-authenticated sessions whose old mapping stays behind.
-/

namespace RustGameserver.Session

open RustGameserver.Foundation
open RustGameserver.Net
open RustGameserver.Proto

variable {Fields Work Reply Inner : Type} {service : Service Fields Work Reply Inner}

/-! ## The calls of one step -/

/-- The registry calls of a list of observations. -/
def registryCalls (sessionId : SessionId) (seen : List (Seen Fields Work Reply Inner)) :
    List RegistryCall :=
  seen.filterMap (Seen.registryCall sessionId)

/-- What a step of a session means for the registry. -/
inductive Effect (service : Service Fields Work Reply Inner) (sessionId : SessionId)
    (task after : Task Fields Work Reply Inner) (seen : List (Seen Fields Work Reply Inner)) :
    Prop where
  | silent (calls : registryCalls sessionId seen = [])
      (user : service.user after.fields = service.user task.fields)
      (registered : after.stage.registered = task.stage.registered)
  | authenticates (userId : String)
      (calls : registryCalls sessionId seen = [.authenticate sessionId userId])
      (user : service.user after.fields = some userId)
      (was : task.stage.registered = true) (still : after.stage.registered = true)
  | removes (calls : registryCalls sessionId seen = [.remove sessionId])
      (was : task.stage.registered = true) (gone : after.stage.registered = false)

variable {task prepared after : Task Fields Work Reply Inner}
  {seen : List (Seen Fields Work Reply Inner)}

/-- A reaction calls the registry exactly when it changes the account. -/
theorem effect_performed {cause : Cause} {reaction : Reaction Fields Work}
    (sessionId : SessionId) (performed : Task.Performed prepared cause reaction after seen)
    (user : service.user reaction.fields = reaction.userAfter (service.user prepared.fields))
    (registered : prepared.stage.registered = true) :
    Effect service sessionId prepared after seen := by
  cases performed with
  | proceed => exact .silent rfl user registered.symm
  | stop => exact .silent rfl user registered.symm
  | spawn => exact .silent rfl user registered.symm
  | send => exact .silent rfl user registered.symm
  | refuse => exact .silent rfl user registered.symm
  | authenticate fields userId => exact .authenticates userId rfl user registered rfl
  | authenticateRefuse fields userId => exact .authenticates userId rfl user registered rfl

/-- Handlers change the account exactly when they register it. -/
theorem takes_user {said : List (Seen Fields Work Reply Inner)} {cause : Cause}
    {reaction : Reaction Fields Work}
    (takes : Task.Takes service task prepared said cause reaction) :
    service.user reaction.fields = reaction.userAfter (service.user prepared.fields) := by
  cases takes with
  | greeting => rfl
  | frame now message => exact service.onRemote_user task.fields now message
  | result now job message => exact service.onInner_user task.fields now message

/-- One step of a session, as the registry sees it. -/
theorem stepped_effect (sessionId : SessionId)
    (stepped : Task.Stepped service task after seen) :
    Effect service sessionId task after seen := by
  cases stepped with
  | @ran prepared _ said more cause reaction takes performed =>
      obtain ⟨stage, fields, _⟩ := takes.frame_eq
      have was := Stage.registered_of_inLoop takes.inLoop
      have quiet : registryCalls sessionId said = [] := by cases takes <;> rfl
      have calls : registryCalls sessionId (said ++ more) = registryCalls sessionId more := by
        rw [registryCalls, List.filterMap_append]
        show registryCalls sessionId said ++ _ = _
        rw [quiet]
        rfl
      have effect := effect_performed sessionId performed (takes_user takes)
        (by rw [stage]; exact was)
      cases effect with
      | silent none user registered =>
          rw [fields] at user
          rw [stage] at registered
          exact .silent (calls.trans none) user registered
      | authenticates userId made user _ still =>
          exact .authenticates userId (calls.trans made) user was still
      | removes made _ gone => exact .removes (calls.trans made) was gone
  | polled stage => exact .silent rfl rfl (by rw [stage]; rfl)
  | parked now stage => exact .silent rfl rfl (by rw [stage]; rfl)
  | left now departure stage =>
      have was : task.stage.registered = true := by
        rcases stage with stage | stage <;> rw [stage] <;> rfl
      exact .silent rfl rfl was.symm
  | awaits => exact .silent rfl rfl rfl
  | returned => exact .silent rfl rfl rfl
  | delivered => exact .silent rfl rfl rfl
  | dropped => exact .silent rfl rfl rfl
  | wrote | recorded => exact .silent (by simp [registryCalls, Seen.registryCall]) rfl rfl
  | removed stage => exact .removes rfl (by rw [stage]; rfl) rfl
  | outboxDropped stage => exact .silent rfl rfl (by rw [stage]; rfl)
  | joined stage => exact .silent rfl rfl (by rw [stage]; rfl)
  | drainTimedOut stage => exact .silent rfl rfl (by rw [stage]; rfl)
  | ended stage =>
      refine .silent ?_ rfl (by rw [stage]; rfl)
      cases service.logoutAccount task.fields <;> rfl

/-- No step changes the token of a session. -/
theorem stepped_kick (stepped : Task.Stepped service task after seen) :
    after.kick = task.kick := by
  cases stepped.moves with
  | ran takes performed => rw [performed.frame_eq.2.1, takes.frame_eq.2.2.1]
  | rests rests => exact rests.kick

/-! ## The registry after one step -/

/-- The state of the server after one session has moved. -/
structure AfterMove (state next : ServerState Fields Work Reply Inner) (sessionId : SessionId)
    (after : Task Fields Work Reply Inner) (registry : SessionRegistry)
    (cancelled : List KickToken) : Prop where
  tasks : ∀ other, next.tasks.get other =
    if other = sessionId then some after else state.tasks.get other
  registry : next.registry = registry
  kept : state.cancelled ⊆ next.cancelled
  cancels : cancelled ⊆ next.cancelled

/-- A session that makes no call leaves the registry as it is. -/
theorem afterMove_silent (state : ServerState Fields Work Reply Inner) (sessionId : SessionId)
    (kick : KickToken) (calls : registryCalls sessionId seen = []) :
    AfterMove state
      ({ state with tasks := state.tasks.insert sessionId after }.observeAll sessionId kick
        seen).1 sessionId after state.registry [] := by
  have ran := ServerState.observeAll_registry
    { state with tasks := state.tasks.insert sessionId after } sessionId kick seen
  have kept := (ServerState.observeAll_cancelled
    { state with tasks := state.tasks.insert sessionId after } sessionId kick seen).1
  have none : seen.filterMap (Seen.registryCall sessionId) = [] := calls
  rw [none, Machine.exec, Option.some.injEq, Prod.mk.injEq, RegistryState.mk.injEq] at ran
  exact ⟨moved_tasks state sessionId kick after seen, ran.1.1.symm, kept, List.nil_subset _⟩

/-- A session that makes one call. -/
theorem afterMove_call (state : ServerState Fields Work Reply Inner) (sessionId : SessionId)
    (kick : KickToken) {call : RegistryCall} (calls : registryCalls sessionId seen = [call]) :
    AfterMove state
      ({ state with tasks := state.tasks.insert sessionId after }.observeAll sessionId kick
        seen).1 sessionId after (state.registry.perform call).1
      (state.registry.perform call).2 := by
  have ran := ServerState.observeAll_registry
    { state with tasks := state.tasks.insert sessionId after } sessionId kick seen
  obtain ⟨kept, cancels⟩ := ServerState.observeAll_cancelled
    { state with tasks := state.tasks.insert sessionId after } sessionId kick seen
  have one : seen.filterMap (Seen.registryCall sessionId) = [call] := calls
  obtain ⟨entry, _, made⟩ : ∃ entry ∈ seen, entry.registryCall sessionId = some call :=
    List.mem_filterMap.mp (by rw [one]; exact List.mem_singleton_self _)
  have first := ServerState.registryCall_step sessionId made state.registry state.kicks
  rw [one, Machine.exec_singleton first, Option.some.injEq, Prod.mk.injEq,
    RegistryState.mk.injEq] at ran
  obtain ⟨⟨registry, _⟩, observed⟩ := ran
  refine ⟨moved_tasks state sessionId kick after seen, registry.symm, kept, ?_⟩
  exact cancels ⟨call, _⟩ (by rw [← observed]; exact List.mem_singleton_self _)

/-! ## The invariant -/

/-- The registry, the tokens and the accounts of the session tasks agree. -/
structure Owned (service : Service Fields Work Reply Inner)
    (state : ServerState Fields Work Reply Inner) : Prop where
  /-- A registered session has an entry with its token and its account. -/
  entries : ∀ sessionId task, state.tasks.get sessionId = some task →
    task.stage.registered = true →
      ∃ entry, state.registry.sessions.get sessionId = some entry ∧ entry.kick = task.kick ∧
        entry.userId = service.user task.fields
  /-- The registry lists no other sessions. -/
  listed : ∀ sessionId entry, state.registry.sessions.get sessionId = some entry →
    ∃ task, state.tasks.get sessionId = some task ∧ task.stage.registered = true
  /-- Unless it has been kicked, the user id of its account is mapped to it. -/
  mappings : ∀ sessionId task userId, state.tasks.get sessionId = some task →
    task.stage.registered = true → service.user task.fields = some userId →
      task.kick ∉ state.cancelled →
        state.registry.authenticated.get userId = some sessionId

namespace Owned

variable {state next : ServerState Fields Work Reply Inner} {sessionId : SessionId}

theorem initial : Owned service ⟨.default, .empty, 0, [], [], false⟩ where
  entries := by simp
  listed := by simp [SessionRegistry.default]
  mappings := by simp

/-- A step that makes no registry call. -/
theorem silent (owned : Owned service state)
    (move : AfterMove state next sessionId after state.registry [])
    (present : state.tasks.get sessionId = some task) (kick : after.kick = task.kick)
    (user : service.user after.fields = service.user task.fields)
    (registered : after.stage.registered = task.stage.registered) : Owned service next where
  entries := fun other found lookup live => by
    rw [move.tasks] at lookup
    rw [move.registry]
    split at lookup
    · next same =>
        rw [Option.some.injEq] at lookup
        rw [← lookup, registered] at live
        rw [same, ← lookup, kick, user]
        exact owned.entries sessionId task present live
    · exact owned.entries other found lookup live
  listed := fun other entry listing => by
    rw [move.registry] at listing
    obtain ⟨found, lookup, live⟩ := owned.listed other entry listing
    rw [move.tasks]
    split
    · next same =>
        rw [same, present, Option.some.injEq] at lookup
        rw [← lookup, ← registered] at live
        exact ⟨after, rfl, live⟩
    · exact ⟨found, lookup, live⟩
  mappings := fun other found userId lookup live account free => by
    have before : found.kick ∉ state.cancelled := fun member => free (move.kept member)
    rw [move.tasks] at lookup
    rw [move.registry]
    split at lookup
    · next same =>
        rw [Option.some.injEq] at lookup
        rw [← lookup, registered] at live
        rw [← lookup, user] at account
        rw [← lookup, kick] at before
        rw [same]
        exact owned.mappings sessionId task userId present live account before
    · exact owned.mappings other found userId lookup live account before

/-- A step in which a session authenticates.  Whoever owned the user id before
is kicked. -/
theorem authenticates (owned : Owned service state) {userId : String}
    (move : AfterMove state next sessionId after
      (state.registry.authenticate sessionId userId).1
      (state.registry.authenticate sessionId userId).2)
    (present : state.tasks.get sessionId = some task) (kick : after.kick = task.kick)
    (user : service.user after.fields = some userId)
    (was : task.stage.registered = true) (still : after.stage.registered = true) :
    Owned service next where
  entries := fun other found lookup live => by
    rw [move.tasks] at lookup
    rw [move.registry, SessionRegistry.authenticate_sessions]
    split at lookup
    · next same =>
        rw [Option.some.injEq] at lookup
        obtain ⟨entry, old, token, _⟩ := owned.entries sessionId task present was
        rw [if_pos same, old, ← lookup, kick, user]
        exact ⟨_, rfl, token, rfl⟩
    · next different =>
        rw [if_neg different]
        exact owned.entries other found lookup live
  listed := fun other entry listing => by
    rw [move.registry, SessionRegistry.authenticate_sessions] at listing
    rw [move.tasks]
    split
    · exact ⟨after, rfl, still⟩
    · next different =>
        rw [if_neg different] at listing
        exact owned.listed other entry listing
  mappings := fun other found holds lookup live account free => by
    rw [move.tasks] at lookup
    rw [move.registry, SessionRegistry.authenticate_authenticated]
    split at lookup
    · next same =>
        rw [Option.some.injEq] at lookup
        rw [← lookup, user, Option.some.injEq] at account
        rw [if_pos account.symm, same]
    · next different =>
        have before := owned.mappings other found holds lookup live account
          fun member => free (move.kept member)
        split
        · next taken =>
            -- the newcomer has just cancelled this session's token
            obtain ⟨entry, old, token, _⟩ := owned.entries other found lookup live
            have cancelled : found.kick ∈ (state.registry.authenticate sessionId userId).2 := by
              rw [SessionRegistry.authenticate_cancels, ← taken, before]
              simp [different, old, token]
            exact absurd (move.cancels cancelled) free
        · exact before

/-- A step in which a session removes itself. -/
theorem removes (owned : Owned service state)
    (move : AfterMove state next sessionId after (state.registry.remove sessionId) [])
    (gone : after.stage.registered = false) : Owned service next where
  entries := fun other found lookup live => by
    rw [move.tasks] at lookup
    rw [move.registry, SessionRegistry.remove_sessions]
    split at lookup
    · rw [Option.some.injEq] at lookup
      rw [← lookup, gone] at live
      contradiction
    · next different =>
        rw [if_neg different]
        exact owned.entries other found lookup live
  listed := fun other entry listing => by
    rw [move.registry, SessionRegistry.remove_sessions] at listing
    rw [move.tasks]
    split at listing
    · contradiction
    · next different =>
        rw [if_neg different]
        exact owned.listed other entry listing
  mappings := fun other found userId lookup live account free => by
    rw [move.tasks] at lookup
    rw [move.registry, SessionRegistry.remove_authenticated]
    split at lookup
    · rw [Option.some.injEq] at lookup
      rw [← lookup, gone] at live
      contradiction
    · next different =>
        have before := owned.mappings other found userId lookup live account
          fun member => free (move.kept member)
        rw [if_neg]
        · exact before
        · rintro ⟨_, mapped⟩
          rw [before, Option.some.injEq] at mapped
          exact different mapped

theorem accepts (owned : Owned service state) {kick : KickToken} {now : Nat}
    {kicks : List KickToken} :
    Owned service
      { state with
        registry := state.registry.register sessionId kick
        tasks := state.tasks.insert sessionId (.create service sessionId kick now)
        kicks
        cancelled := state.cancelled ++ [] } where
  entries := fun other found lookup live => by
    rw [FiniteMap.get_insert] at lookup
    rw [SessionRegistry.register_sessions]
    split at lookup
    · next same =>
        rw [Option.some.injEq] at lookup
        rw [if_pos same, ← lookup]
        exact ⟨_, rfl, rfl, (service.create_user sessionId now).symm⟩
    · next different =>
        rw [if_neg different]
        exact owned.entries other found lookup live
  listed := fun other entry listing => by
    rw [SessionRegistry.register_sessions] at listing
    rw [FiniteMap.get_insert]
    split at listing
    · next same => exact ⟨_, if_pos same, rfl⟩
    · next different =>
        rw [if_neg different]
        exact owned.listed other entry listing
  mappings := fun other found userId lookup live account free => by
    rw [FiniteMap.get_insert] at lookup
    split at lookup
    · rw [Option.some.injEq] at lookup
      rw [← lookup] at account
      have anonymous := service.create_user sessionId now
      rw [show service.user (service.create sessionId now) = some userId from account] at anonymous
      contradiction
    · exact owned.mappings other found userId lookup live account (by simpa using free)

theorem stepped (owned : Owned service state) {event : ServerEvent Reply}
    {seen : List (ServerSeen Fields Work Reply Inner)}
    (stepped : ServerStepped service state event next seen) : Owned service next := by
  cases stepped with
  | drawn => exact ⟨owned.entries, owned.listed, owned.mappings⟩
  | accepted sessionId kick now => exact owned.accepts
  | moved sessionId event task present admitted taken =>
      have moved := Task.step_cases taken
      have kick := stepped_kick moved
      cases stepped_effect sessionId moved with
      | silent calls user registered =>
          exact owned.silent (afterMove_silent state sessionId task.kick calls) present kick user
            registered
      | authenticates userId calls user was still =>
          exact owned.authenticates (afterMove_call state sessionId task.kick calls) present kick
            user was still
      | removes calls was gone =>
          exact owned.removes (afterMove_call state sessionId task.kick calls) gone
  | disconnected sessionId =>
      refine ⟨owned.entries, owned.listed, fun other found userId lookup live account free => ?_⟩
      exact owned.mappings other found userId lookup live account
        fun member => free (List.mem_append_left _ member)
  | shutDown => exact ⟨owned.entries, owned.listed, owned.mappings⟩

end Owned

theorem reaches_owned {state : ServerState Fields Work Reply Inner}
    {history : List (ServerSeen Fields Work Reply Inner)}
    (run : (server service).Reaches state history) : Owned service state := by
  apply run.invariant
  · rintro state rfl
    exact .initial
  · intro before history event after seen _ owned taken
    exact owned.stepped (server_step_cases taken)

/-! ## The success response -/

/-- A success is enqueued right after the session has registered its account. -/
def Announced (service : Service Fields Work Reply Inner)
    (earlier : List (ServerSeen Fields Work Reply Inner)) :
    ServerSeen Fields Work Reply Inner → Prop
  | .session sessionId (.accepted _ payload) => service.isSuccess payload = true →
      ∃ front fields userId cancelled,
        earlier = front ++ [.session sessionId (.authenticate fields userId),
          .registry ⟨.authenticate sessionId userId, cancelled⟩] ∧
        service.user fields = some userId
  | _ => True

/-- The observation is no success response. -/
def Seen.plain (service : Service Fields Work Reply Inner) : Seen Fields Work Reply Inner → Prop
  | .accepted _ payload => service.isSuccess payload = false
  | _ => True

theorem announced_plain {earlier : List (ServerSeen Fields Work Reply Inner)}
    {sessionId : SessionId} {entry : Seen Fields Work Reply Inner} (plain : entry.plain service) :
    Announced service earlier (.session sessionId entry) := by
  cases entry with
  | accepted cause payload =>
      intro success
      rw [show service.isSuccess payload = false from plain] at success
      contradiction
  | _ => trivial

/-- Observations among which there is no success response. -/
theorem announced_observeAll (state : ServerState Fields Work Reply Inner)
    (sessionId : SessionId) (kick : KickToken) (plain : ∀ entry ∈ seen, entry.plain service) :
    ∀ earlier, ∀ entry ∈ (state.observeAll sessionId kick seen).2,
      Announced service earlier entry := by
  induction seen generalizing state with
  | nil => exact fun _ _ => nofun
  | cons first rest inductionHypothesis =>
      intro earlier entry member
      rw [ServerState.observeAll, List.mem_append] at member
      rcases member with member | member
      · unfold ServerState.observe at member
        split at member
        · simp only [ServerState.call, List.mem_cons, List.not_mem_nil, or_false] at member
          rcases member with rfl | rfl
          · exact announced_plain (plain first List.mem_cons_self)
          · trivial
        · split at member <;> rw [List.mem_singleton] at member <;> rw [member] <;>
            exact announced_plain (plain first List.mem_cons_self)
      · exact inductionHypothesis _ (fun other among => plain other (List.mem_cons_of_mem _ among))
          earlier entry member

/-- Observations that end with the registration of a session and its success. -/
theorem announced_authenticate (state : ServerState Fields Work Reply Inner)
    (sessionId : SessionId) (kick : KickToken) (said : List (Seen Fields Work Reply Inner))
    (plain : ∀ entry ∈ said, entry.plain service) {fields : Fields} {userId : String}
    (user : service.user fields = some userId) (cause : Cause) (payload : Payload)
    {history : List (ServerSeen Fields Work Reply Inner)}
    (justified : Justified (Announced service) history) :
    Justified (Announced service) (history ++
      (state.observeAll sessionId kick
        (said ++ [.authenticate fields userId, .accepted cause payload])).2) := by
  induction said generalizing state history with
  | nil =>
      have told : Justified (Announced service)
          (history ++ [.session sessionId (.authenticate fields userId)]) :=
        justified.snoc trivial
      have registered := told.snoc
        (show Announced service _ (.registry ⟨.authenticate sessionId userId,
          (state.registry.authenticate sessionId userId).2⟩) from trivial)
      have announced := registered.snoc
        (show Announced service _ (.session sessionId (.accepted cause payload)) from
          fun _ => ⟨history, fields, userId, _, List.append_assoc .., user⟩)
      simpa [ServerState.observeAll, ServerState.observe, Seen.registryCall, ServerState.call,
        Seen.cancelsKick, SessionRegistry.perform] using announced
  | cons first rest inductionHypothesis =>
      have alone : ∀ entry ∈ [first], entry.plain service := by
        intro entry member
        rw [List.mem_singleton.mp member]
        exact plain first List.mem_cons_self
      have start := justified.append_free (announced_observeAll state sessionId kick alone)
      have later := inductionHypothesis (state.observe sessionId kick first).1
        (fun other among => plain other (List.mem_cons_of_mem _ among)) start
      simpa [ServerState.observeAll] using later

/-- One reaction of a session. -/
theorem announced_performed {cause : Cause} {reaction : Reaction Fields Work}
    (state : ServerState Fields Work Reply Inner) (sessionId : SessionId) (kick : KickToken)
    {said : List (Seen Fields Work Reply Inner)}
    (takes : Task.Takes service task prepared said cause reaction)
    (performed : Task.Performed prepared cause reaction after seen)
    {history : List (ServerSeen Fields Work Reply Inner)}
    (justified : Justified (Announced service) history) :
    Justified (Announced service)
      (history ++ (state.observeAll sessionId kick (said ++ seen)).2) := by
  have quiet : ∀ entry ∈ said, entry.plain service := by
    cases takes <;> simp [Seen.plain]
  have user := takes_user takes
  have silent (more : ∀ entry ∈ seen, entry.plain service) :
      Justified (Announced service)
        (history ++ (state.observeAll sessionId kick (said ++ seen)).2) := by
    apply justified.append_free
    apply announced_observeAll
    intro entry member
    rcases List.mem_append.mp member with member | member
    · exact quiet entry member
    · exact more entry member
  cases performed with
  | authenticate fields userId payload =>
      exact announced_authenticate state sessionId kick said quiet user cause payload justified
  | send fields payload sent =>
      apply silent
      have plain : service.isSuccess payload = false := by
        generalize shape : Reaction.send fields payload = reaction at takes
        cases takes with
        | greeting =>
            cases shape
            exact service.greeting_success
        | frame now message => exact service.onRemote_success _ now message _ _ shape.symm
        | result now job message => exact service.onInner_success _ now message _ _ shape.symm
      simpa [Seen.plain] using plain
  | _ => exact silent (by simp [Seen.plain])

theorem reaches_announced {state : ServerState Fields Work Reply Inner}
    {history : List (ServerSeen Fields Work Reply Inner)}
    (run : (server service).Reaches state history) : Justified (Announced service) history := by
  apply run.invariant
  · intro state _
    exact .nil
  · intro before history event after seen _ justified taken
    cases server_step_cases taken with
    | drawn => simpa using justified
    | accepted => exact justified.snoc trivial
    | disconnected => exact justified.snoc trivial
    | shutDown => simpa using justified
    | moved sessionId event task present admitted stepped =>
        cases Task.step_cases stepped with
        | ran takes performed => exact announced_performed _ sessionId _ takes performed justified
        | _ =>
            apply justified.append_free
            apply announced_observeAll
            simp [Seen.plain]

end RustGameserver.Session
