import RustGameserver.Admin.Requests

/-!
Contract: who gets to the protected handlers of the AdminApi.

Owns:
- what each phase of a request, and each observation, rests on;
- that the keys form a store whose every entry was put there by the login of an admin;
- that a protected handler runs only on a key that is valid when it is looked up;
- that a key is of no use after its logout.

Does not own: what a protected handler does.
-/

namespace RustGameserver.Admin

open RustGameserver.Db
open RustGameserver.Foundation

variable {config : AdminApiConfig} {library : PasswordLibrary} {history more : List AdminSeen}
  {id : RequestId} {http : HttpRequest} {userId : String}

/-! ## Evidence -/

/-- The request is a login of one of the admins. -/
structure Attempts (config : AdminApiConfig) (history : List AdminSeen) (id : RequestId)
    (http : HttpRequest) (req : LoginRequestDto) : Prop where
  ran : .request id (.ran .login) ∈ history
  body : http.body.login = some req
  listed : req.userId ∈ config.admins

/-- The row that the database has for the user of the request. -/
def Queried (history : List AdminSeen) (id : RequestId) (req : LoginRequestDto)
    (storedHash salt : String) : Prop :=
  .request id (.queried req.userId (some (storedHash, salt))) ∈ history

/-- The request is a login of this admin, whose password has been verified. -/
def LoggedIn (config : AdminApiConfig) (library : PasswordLibrary) (history : List AdminSeen)
    (id : RequestId) (userId : String) : Prop :=
  ∃ http req storedHash salt, .request id (.arrived http) ∈ history ∧
    Attempts config history id http req ∧ req.userId = userId ∧
    Queried history id req storedHash salt ∧
    library.verify (library.clientHash req.password) storedHash salt = .ok true

/-- The request has found a user under the key that it carries. -/
def Admitted (config : AdminApiConfig) (history : List AdminSeen) (id : RequestId)
    (http : HttpRequest) : Prop :=
  ∃ key userId now, http.key = some key ∧
    .redis (some id) (.read (config.redisKey key) userId now) ∈ history

/-- What a phase of a request rests on. -/
def Warranted (config : AdminApiConfig) (library : PasswordLibrary) (history : List AdminSeen)
    (id : RequestId) (http : HttpRequest) : Phase → Prop
  | .validating key => http.key = some key
  | .renewing _ _ => Admitted config history id http
  | .querying req => Attempts config history id http req
  | .verifying req storedHash salt =>
      Attempts config history id http req ∧ Queried history id req storedHash salt
  | .issuing userId _ => LoggedIn config library history id userId
  | .revoking key => http.key = some key ∧ Admitted config history id http
  | .entrusted handler => handler = .health ∨ Admitted config history id http
  | .finished _ => True

/-- What an observation rests on. -/
def Sanctioned (config : AdminApiConfig) (library : PasswordLibrary) (earlier : List AdminSeen) :
    AdminSeen → Prop
  | .request id (.ran handler) =>
      handler = .login ∨ handler = .health ∨
        ∃ http, .request id (.arrived http) ∈ earlier ∧ Admitted config earlier id http
  | .request _ _ => True
  | .redis caller (.put _ userId _) =>
      ∃ id, caller = some id ∧ LoggedIn config library earlier id userId
  | .redis _ (.removed redisKey) =>
      ∃ reader userId now, .redis reader (.read redisKey userId now) ∈ earlier
  | .redis _ _ => True

theorem Attempts.grow {req : LoginRequestDto} (attempts : Attempts config history id http req)
    (more : List AdminSeen) : Attempts config (history ++ more) id http req :=
  ⟨List.mem_append_left _ attempts.ran, attempts.body, attempts.listed⟩

theorem Queried.grow {req : LoginRequestDto} {storedHash salt : String}
    (queried : Queried history id req storedHash salt) (more : List AdminSeen) :
    Queried (history ++ more) id req storedHash salt :=
  List.mem_append_left _ queried

theorem LoggedIn.grow (loggedIn : LoggedIn config library history id userId)
    (more : List AdminSeen) : LoggedIn config library (history ++ more) id userId := by
  obtain ⟨http, req, storedHash, salt, arrived, attempts, same, queried, verdict⟩ := loggedIn
  exact ⟨http, req, storedHash, salt, List.mem_append_left _ arrived, attempts.grow more, same,
    queried.grow more, verdict⟩

theorem Admitted.grow (admitted : Admitted config history id http) (more : List AdminSeen) :
    Admitted config (history ++ more) id http := by
  obtain ⟨key, userId, now, carries, found⟩ := admitted
  exact ⟨key, userId, now, carries, List.mem_append_left _ found⟩

theorem Warranted.grow {phase : Phase} (warranted : Warranted config library history id http phase)
    (more : List AdminSeen) : Warranted config library (history ++ more) id http phase := by
  cases phase with
  | validating key => exact warranted
  | renewing key userId => exact Admitted.grow warranted more
  | querying req => exact Attempts.grow warranted more
  | verifying req storedHash salt => exact ⟨warranted.1.grow more, warranted.2.grow more⟩
  | issuing userId key => exact LoggedIn.grow warranted more
  | revoking key => exact ⟨warranted.1, warranted.2.grow more⟩
  | entrusted handler => exact warranted.imp_right fun admitted => admitted.grow more
  | finished response => trivial

theorem Sanctioned.grow {seen : AdminSeen} (sanctioned : Sanctioned config library history seen)
    (more : List AdminSeen) : Sanctioned config library (history ++ more) seen := by
  match seen, sanctioned with
  | .request id (.ran handler), .inl same => exact .inl same
  | .request id (.ran handler), .inr (.inl same) => exact .inr (.inl same)
  | .request id (.ran handler), .inr (.inr ⟨http, arrived, admitted⟩) =>
      exact .inr (.inr ⟨http, List.mem_append_left _ arrived, admitted.grow more⟩)
  | .request _ (.arrived _), _ | .request _ (.queried ..), _ | .request _ (.verified ..), _ =>
      trivial
  | .redis caller (.put ..), ⟨id, same, loggedIn⟩ => exact ⟨id, same, loggedIn.grow more⟩
  | .redis _ (.removed _), ⟨reader, userId, now, found⟩ =>
      exact ⟨reader, userId, now, List.mem_append_left _ found⟩
  | .redis _ (.read ..), _ | .redis _ (.renewed ..), _ | .redis _ (.expired _), _ => trivial

/-! ## The turns of a request -/

/-- The turn of a request rests on what the history has. -/
structure Founded (config : AdminApiConfig) (library : PasswordLibrary) (history : List AdminSeen)
    (id : RequestId) (http : HttpRequest) (turn : Turn) : Prop where
  seen : ∀ entry ∈ turn.seen, Sanctioned config library history (.request id entry)
  phase : Warranted config library (history ++ turn.seen.map (.request id)) id http turn.phase

theorem founded_finished (response : Response) :
    Founded config library history id http ⟨.finished response, []⟩ :=
  ⟨by simp, trivial⟩

/-- What a login rests on while it has not asked the database yet. -/
theorem login_warranted {req : LoginRequestDto} (ran : .request id (.ran .login) ∈ history)
    (body : http.body.login = some req) :
    Warranted config library history id http (login config req) := by
  unfold login
  split
  · trivial
  split
  · trivial
  · next listed => exact ⟨ran, body, by simpa using listed⟩

/-- An exempt request gets to `login` and `health` only, any other one after it was admitted. -/
theorem next_founded (arrived : .request id (.arrived http) ∈ history)
    (allowed : isExempt http.path = true ∨ Admitted config history id http) :
    Founded config library history id http (next config http) := by
  unfold next
  split
  · exact founded_finished _
  next method handler leads =>
  split
  · constructor
    · intro entry member
      rw [List.mem_singleton.mp member]
      rcases allowed with exempt | admitted
      · rcases exempt_endpoint exempt leads with same | same
        · exact .inl same
        · exact .inr (.inl same)
      · exact .inr (.inr ⟨http, arrived, admitted⟩)
    · cases handler with
      | login =>
          simp only [handle]
          split
          · next req body => exact login_warranted (by simp) body
          · trivial
      | logout =>
          simp only [handle, logout]
          split
          · next key carries =>
              rcases allowed with exempt | admitted
              · rcases exempt_endpoint exempt leads with same | same
                · contradiction
                · contradiction
              · exact ⟨carries, admitted.grow _⟩
          · trivial
      | health => exact .inl rfl
      | notice | scoresByAccount | scoresTop | sessions | disconnect | stats =>
          rcases allowed with exempt | admitted
          · rcases exempt_endpoint exempt leads with same | same
            · contradiction
            · contradiction
          · exact .inr (admitted.grow _)
  · exact founded_finished _

theorem requireSessionKey_founded (arrived : .request id (.arrived http) ∈ history) :
    Founded config library history id http (requireSessionKey config http) := by
  unfold requireSessionKey
  split
  · next exempt => exact next_founded arrived (.inl exempt)
  split
  · exact founded_finished _
  next value present =>
  refine ⟨by simp, ?_⟩
  unfold validate
  split
  · trivial
  · next readable =>
      cases text : headerText value with
      | none => simp [text] at readable
      | some key => simp [Warranted, HttpRequest.key, present, text]

theorem onRow_founded {req : LoginRequestDto} {row : Option (String × String)}
    (attempts : Attempts config history id http req) :
    Founded config library history id http (onRow req row) := by
  constructor
  · intro entry member
    rw [List.mem_singleton.mp member]
    trivial
  · cases row with
    | none => trivial
    | some row => exact ⟨attempts.grow _, by simp [Queried, onRow]⟩

theorem onVerified_founded {req : LoginRequestDto} {storedHash salt key : String}
    (arrived : .request id (.arrived http) ∈ history)
    (attempts : Attempts config history id http req)
    (queried : Queried history id req storedHash salt) :
    Founded config library history id http (onVerified library req storedHash salt key) := by
  constructor
  · intro entry member
    rw [List.mem_singleton.mp member]
    trivial
  · unfold onVerified
    cases verdict : library.verify (library.clientHash req.password) storedHash salt with
    | error error => trivial
    | ok verified =>
        cases verified with
        | false => trivial
        | true =>
            exact ⟨http, req, storedHash, salt, List.mem_append_left _ arrived, attempts.grow _,
              rfl, queried.grow _, verdict⟩

/-! ## The commands to Redis -/

section Commands

variable {keys after : LeaseStore String String} {seen : List (LeaseSeen String String)}
  {phase : Phase} {call : LeaseCall String String} {reply : Reply}

theorem carryOut_cases (carried : carryOut keys call reply = some (after, seen)) :
    keys.step call = some (after, seen) ∨ after = keys ∧ seen = [] := by
  unfold carryOut at carried
  split at carried
  · exact .inl carried
  · cases carried
    exact .inr ⟨rfl, rfl⟩

theorem command_put {redisKey userId : String} {ttl : Nat}
    (given : phase.command config = some (.put redisKey userId ttl)) :
    ∃ key, phase = .issuing userId key := by
  cases phase with
  | issuing userId key =>
      cases given
      exact ⟨key, rfl⟩
  | renewing key userId =>
      rw [Phase.command, AdminApiConfig.renewal] at given
      split at given <;> cases given
  | validating | revoking | querying | verifying | entrusted | finished => cases given

theorem command_remove {redisKey : String}
    (given : phase.command config = some (.remove redisKey)) :
    ∃ key, phase = .revoking key ∧ redisKey = config.redisKey key := by
  cases phase with
  | revoking key =>
      cases given
      exact ⟨key, rfl, rfl⟩
  | renewing key userId =>
      rw [Phase.command, AdminApiConfig.renewal] at given
      split at given <;> cases given
  | validating | issuing | querying | verifying | entrusted | finished => cases given

/-- A command is only given by a request that may give it. -/
theorem command_sanctioned (warranted : Warranted config library history id http phase)
    (given : phase.command config = some call)
    (carried : carryOut keys call reply = some (after, seen)) :
    ∀ entry ∈ seen, Sanctioned config library history (.redis (some id) entry) := by
  intro entry member
  rcases carryOut_cases carried with stepped | ⟨_, rfl⟩
  swap
  · contradiction
  cases LeaseStore.step_cases stepped with
  | put redisKey userId ttl fresh =>
      obtain ⟨key, rfl⟩ := command_put given
      rw [List.mem_singleton.mp member]
      exact ⟨id, rfl, warranted⟩
  | remove redisKey =>
      obtain ⟨key, rfl, rfl⟩ := command_remove given
      rw [List.mem_singleton.mp member]
      obtain ⟨carries, other, userId, now, carried, found⟩ := warranted
      rw [carries, Option.some.injEq] at carried
      rw [← carried] at found
      exact ⟨_, userId, now, found⟩
  | read redisKey present alive =>
      rw [List.mem_singleton.mp member]
      trivial
  | renew redisKey ttl present alive =>
      rw [List.mem_singleton.mp member]
      trivial
  | expire redisKey =>
      rw [List.mem_singleton.mp member]
      trivial
  | miss | elapse => contradiction

theorem resume_founded (arrived : .request id (.arrived http) ∈ history)
    (warranted : Warranted config library history id http phase)
    (given : phase.command config = some call)
    (carried : carryOut keys call reply = some (after, seen)) :
    Founded config library (history ++ seen.map (.redis (some id))) id http
      (resume config http keys phase reply) := by
  cases reply with
  | failed applied => exact founded_finished _
  | done =>
      cases phase with
      | validating key =>
          cases given
          simp only [resume]
          split
          · next lease found =>
              rw [Option.filter_eq_some_iff] at found
              simp only [carryOut, Reply.applied, if_true, LeaseStore.step, found.1] at carried
              cases carried
              exact ⟨by simp, key, lease.value, keys.now, warranted, by simp⟩
          · exact founded_finished _
      | renewing key userId =>
          exact next_founded (List.mem_append_left _ arrived) (.inr (Admitted.grow warranted _))
      | issuing userId key => exact founded_finished _
      | revoking key => exact founded_finished _
      | querying | verifying | entrusted | finished => contradiction

end Commands

/-! ## Every run -/

variable {api after : AdminApi} {seen : List AdminSeen} {event : AdminEvent}

/-- What one step of the AdminApi can do. -/
inductive AdminStepped (config : AdminApiConfig) (library : PasswordLibrary) (api : AdminApi) :
    AdminApi → List AdminSeen → Prop where
  | arrived (id : RequestId) (http : HttpRequest) :
      AdminStepped config library api (api.turn id http (requireSessionKey config http))
        (.request id (.arrived http) ::
          (requireSessionKey config http).seen.map (.request id))
  | commanded {call : LeaseCall String String} {keys : LeaseStore String String}
      {seen : List (LeaseSeen String String)} (id : RequestId) (progress : Progress)
      (reply : Reply) (present : api.requests.get id = some progress)
      (given : progress.phase.command config = some call)
      (carried : carryOut api.keys call reply = some (keys, seen)) :
      AdminStepped config library api
        ({ api with keys }.turn id progress.http
          (resume config progress.http api.keys progress.phase reply))
        (seen.map (.redis (some id)) ++
          (resume config progress.http api.keys progress.phase reply).seen.map (.request id))
  | answered (id : RequestId) (http : HttpRequest) (req : LoginRequestDto)
      (row : Option (String × String))
      (present : api.requests.get id = some ⟨http, .querying req⟩) :
      AdminStepped config library api (api.turn id http (onRow req row))
        ((onRow req row).seen.map (.request id))
  | verified (id : RequestId) (http : HttpRequest) (req : LoginRequestDto)
      (storedHash salt key : String)
      (present : api.requests.get id = some ⟨http, .verifying req storedHash salt⟩) :
      AdminStepped config library api
        (api.turn id http (onVerified library req storedHash salt key))
        ((onVerified library req storedHash salt key).seen.map (.request id))
  | failed (id : RequestId) (progress : Progress)
      (present : api.requests.get id = some progress) :
      AdminStepped config library api (api.turn id progress.http ⟨internalError, []⟩) []
  | expired {keys : LeaseStore String String} {seen : List (LeaseSeen String String)}
      (redisKey : String) (stepped : api.keys.step (.expire redisKey) = some (keys, seen)) :
      AdminStepped config library api { api with keys } (seen.map (.redis none))
  | elapsed {keys : LeaseStore String String} {seen : List (LeaseSeen String String)}
      (now : Nat) (stepped : api.keys.step (.elapse now) = some (keys, seen)) :
      AdminStepped config library api { api with keys } (seen.map (.redis none))

theorem admin_step_cases (taken : api.step config library event = some (after, seen)) :
    AdminStepped config library api after seen := by
  cases event with
  | arrive id http =>
      simp only [AdminApi.step] at taken
      split at taken
      · contradiction
      · cases taken
        exact .arrived id http
  | redis id reply =>
      simp only [AdminApi.step] at taken
      split at taken
      · contradiction
      next progress present =>
      split at taken
      · contradiction
      next call given =>
      split at taken
      · contradiction
      next keys observed carried =>
      cases taken
      exact .commanded id progress reply present given carried
  | database id answer =>
      simp only [AdminApi.step] at taken
      split at taken
      · next http req present =>
          cases taken
          cases answer with
          | none => exact .failed id _ present
          | some row => exact .answered id http req row present
      · contradiction
  | blocking id drawn =>
      simp only [AdminApi.step] at taken
      split at taken
      · next http req storedHash salt present =>
          cases taken
          cases drawn with
          | none => exact .failed id _ present
          | some key => exact .verified id http req storedHash salt key present
      · contradiction
  | expire redisKey =>
      simp only [AdminApi.step, Option.map_eq_some_iff] at taken
      obtain ⟨⟨keys, observed⟩, stepped, outcome⟩ := taken
      cases outcome
      exact .expired redisKey stepped
  | elapse now =>
      simp only [AdminApi.step, Option.map_eq_some_iff] at taken
      obtain ⟨⟨keys, observed⟩, stepped, outcome⟩ := taken
      cases outcome
      exact .elapsed now stepped

/-- Everything in the state and in the history has what it rests on. -/
structure Supported (config : AdminApiConfig) (library : PasswordLibrary) (api : AdminApi)
    (history : List AdminSeen) : Prop where
  arrived : ∀ id progress, api.requests.get id = some progress →
    .request id (.arrived progress.http) ∈ history
  warranted : ∀ id progress, api.requests.get id = some progress →
    Warranted config library history id progress.http progress.phase
  sanctioned : Justified (Sanctioned config library) history

namespace Supported

/-- The keys move while every request stays where it is. -/
theorem aside (supported : Supported config library api history)
    (keys : LeaseStore String String)
    (sanctioned : ∀ entry ∈ seen, Sanctioned config library history entry) :
    Supported config library { api with keys } (history ++ seen) where
  arrived := fun other progress found =>
    List.mem_append_left _ (supported.arrived other progress found)
  warranted := fun other progress found => (supported.warranted other progress found).grow _
  sanctioned := supported.sanctioned.append fun front entry member =>
    (sanctioned entry member).grow front

theorem turn (supported : Supported config library api history)
    (arrived : .request id (.arrived http) ∈ history) {turn : Turn}
    (founded : Founded config library history id http turn) :
    Supported config library (api.turn id http turn)
      (history ++ turn.seen.map (.request id)) := by
  constructor
  · intro other progress found
    simp only [AdminApi.turn, FiniteMap.get_insert] at found
    split at found
    · next same =>
        cases found
        rw [same]
        exact List.mem_append_left _ arrived
    · exact List.mem_append_left _ (supported.arrived other progress found)
  · intro other progress found
    simp only [AdminApi.turn, FiniteMap.get_insert] at found
    split at found
    · next same =>
        cases found
        rw [same]
        exact founded.phase
    · exact (supported.warranted other progress found).grow _
  · apply supported.sanctioned.append
    intro front entry member
    obtain ⟨own, among, rfl⟩ := List.mem_map.mp member
    exact (founded.seen own among).grow front

theorem step (supported : Supported config library api history)
    (taken : api.step config library event = some (after, seen)) :
    Supported config library after (history ++ seen) := by
  cases admin_step_cases taken with
  | arrived id http =>
      have greeted : Supported config library api (history ++ [.request id (.arrived http)]) :=
        supported.aside api.keys (by simp [Sanctioned])
      rw [List.append_cons]
      exact greeted.turn (by simp) (requireSessionKey_founded (by simp))
  | @commanded call keys observed id progress reply present given carried =>
      have arrived := supported.arrived id progress present
      have warranted := supported.warranted id progress present
      have sanctioned : ∀ entry ∈ observed.map (.redis (some id)),
          Sanctioned config library history entry := by
        intro entry member
        obtain ⟨own, among, rfl⟩ := List.mem_map.mp member
        exact command_sanctioned warranted given carried own among
      rw [← List.append_assoc]
      exact (supported.aside keys sanctioned).turn (List.mem_append_left _ arrived)
        (resume_founded arrived warranted given carried)
  | answered id http req row present =>
      exact supported.turn (supported.arrived id _ present)
        (onRow_founded (supported.warranted id _ present))
  | verified id http req storedHash salt key present =>
      obtain ⟨attempts, queried⟩ := supported.warranted id _ present
      have arrived := supported.arrived id _ present
      exact supported.turn arrived (onVerified_founded arrived attempts queried)
  | failed id progress present =>
      exact supported.turn (supported.arrived id progress present) (founded_finished _)
  | expired redisKey stepped =>
      cases stepped
      exact supported.aside _ (by simp [Sanctioned])
  | elapsed now stepped =>
      cases LeaseStore.step_cases stepped with
      | miss key asked absent => simp at asked
      | elapse now later => exact supported.aside _ (by simp)

end Supported

theorem reaches_supported (run : (admin config library).Reaches api history) :
    Supported config library api history := by
  apply run.invariant
  · rintro start ⟨empty, _⟩
    exact ⟨by simp [empty], by simp [empty], .nil⟩
  · intro before earlier event after seen _ supported taken
    exact supported.step taken

/-- The keys, as observed. -/
def AdminSeen.ofKeys : AdminSeen → Option (LeaseSeen String String)
  | .redis _ seen => some seen
  | .request .. => none

theorem keys_move {keys after : LeaseStore String String} {call : LeaseCall String String}
    {seen : List (LeaseSeen String String)} (stepped : keys.step call = some (after, seen)) :
    LeaseStore.machine.Moves (some keys) after seen :=
  .one stepped

/-- The keys are a store whose entries live for a time. -/
theorem admin_projects_keys : (admin config library).Projects LeaseStore.machine
    (fun api => some api.keys) AdminSeen.ofKeys := by
  have silent (id : RequestId) (seen : List RequestSeen) :
      (seen.map (.request id)).filterMap AdminSeen.ofKeys = [] :=
    filterMap_wrapped _ _ (fun _ => rfl) seen
  have own (caller : Option RequestId) (seen : List (LeaseSeen String String)) :
      (seen.map (.redis caller)).filterMap AdminSeen.ofKeys = seen :=
    filterMap_unwrapped (AdminSeen.redis caller) _ (fun _ => rfl) seen
  apply Machine.Projects.component
  · rintro api ⟨_, initial⟩
    exact initial
  · intro before event after seen taken
    cases admin_step_cases taken with
    | arrived id http => exact .rests rfl (by simp [AdminSeen.ofKeys])
    | commanded id progress reply present given carried =>
        rcases carryOut_cases carried with stepped | ⟨rfl, rfl⟩
        · rw [List.filterMap_append, own, silent, List.append_nil]
          exact keys_move stepped
        · exact .rests rfl (silent id _)
    | answered id => exact .rests rfl (silent id _)
    | verified id => exact .rests rfl (silent id _)
    | failed => exact .rests rfl rfl
    | expired redisKey stepped | elapsed now stepped =>
        rw [own]
        exact keys_move stepped

theorem reaches_keys (run : (admin config library).Reaches api history) :
    LeaseStore.machine.Reaches api.keys (history.filterMap AdminSeen.ofKeys) :=
  admin_projects_keys.reaches run rfl

/-! ## Access -/

/-- The key has been stored by the login of an admin whose password was verified, and
has neither been removed nor expired since. -/
def Valid (config : AdminApiConfig) (library : PasswordLibrary) (before : List AdminSeen)
    (redisKey userId : String) (now : Nat) : Prop :=
  ∃ past issuer first since deadline,
    before = past ++ .redis (some issuer) (.put redisKey userId first) :: since ∧
      LoggedIn config library past issuer userId ∧
      LeaseStore.lasting redisKey first (since.filterMap AdminSeen.ofKeys) = some deadline ∧
      now < deadline

/-- Where the keys have been observed, something has been observed of them. -/
theorem split_ofKeys {front back : List (LeaseSeen String String)}
    {entry : LeaseSeen String String}
    (shape : history.filterMap AdminSeen.ofKeys = front ++ entry :: back) :
    ∃ before caller later, history = before ++ .redis caller entry :: later ∧
      before.filterMap AdminSeen.ofKeys = front ∧ later.filterMap AdminSeen.ofKeys = back := by
  obtain ⟨before, rest, rfl, earlier, further⟩ := List.filterMap_eq_append_iff.mp shape
  obtain ⟨silent, seen, later, rfl, quiet, observed, last⟩ :=
    List.filterMap_eq_cons_iff.mp further
  cases seen with
  | request id own => contradiction
  | redis caller own =>
      cases observed
      refine ⟨before ++ silent, caller, later, by simp, ?_, last⟩
      rw [List.filterMap_append, earlier, List.filterMap_eq_nil_iff.mpr quiet, List.append_nil]

theorem ofKeys_split {before later : List AdminSeen} {caller : Option RequestId}
    {entry : LeaseSeen String String} (shape : history = before ++ .redis caller entry :: later) :
    history.filterMap AdminSeen.ofKeys =
      before.filterMap AdminSeen.ofKeys ++ entry :: later.filterMap AdminSeen.ofKeys := by
  rw [shape, List.filterMap_append]
  rfl

/-- A user who is read under a key has logged in as an admin, and the key is valid. -/
theorem read_valid (run : (admin config library).Reaches api history)
    {before later : List AdminSeen} {reader : Option RequestId} {redisKey : String} {now : Nat}
    (shape : history = before ++ .redis reader (.read redisKey userId now) :: later) :
    Valid config library before redisKey userId now := by
  obtain ⟨deadline, ⟨front, between, first, written, lasts⟩, unexpired⟩ :=
    LeaseStore.reaches_sound (reaches_keys run) _ _ _ (ofKeys_split shape)
  obtain ⟨past, issuer, since, rfl, _, behind⟩ := split_ofKeys written
  obtain ⟨id, rfl, loggedIn⟩ := (reaches_supported run).sanctioned past
    (.redis issuer (.put redisKey userId first))
    (since ++ .redis reader (.read redisKey userId now) :: later) (by simp [shape])
  rw [← behind] at lasts
  exact ⟨past, id, first, since, deadline, rfl, loggedIn, lasts, unexpired⟩

/-- Other than `login` and `health`, a handler runs only if its request carries a key that
was valid when it was looked up; and no user is found under a key any more once its
logout has removed it. -/
theorem access_controlled {api : AdminApi} {history : List AdminSeen}
    (run : (admin config library).Reaches api history) :
    (∀ earlier id handler later, history = earlier ++ .request id (.ran handler) :: later →
      handler ≠ .login → handler ≠ .health →
      ∃ http key userId now before between, http.key = some key ∧
        .request id (.arrived http) ∈ earlier ∧
        earlier = before ++ .redis (some id) (.read (config.redisKey key) userId now) :: between ∧
        Valid config library before (config.redisKey key) userId now) ∧
    ∀ earlier caller redisKey later, history = earlier ++ .redis caller (.removed redisKey) :: later →
      ∀ reader userId now, .redis reader (.read redisKey userId now) ∉ later := by
  have sanctioned := (reaches_supported run).sanctioned
  constructor
  · intro earlier id handler later shape unlikeLogin unlikeHealth
    rcases sanctioned earlier (.request id (.ran handler)) later shape with
      same | same | ⟨http, arrived, key, userId, now, carries, found⟩
    · contradiction
    · contradiction
    · obtain ⟨before, between, rfl⟩ := List.append_of_mem found
      refine ⟨http, key, userId, now, before, between, carries, arrived, rfl, ?_⟩
      exact read_valid run (by rw [shape, List.append_assoc, List.cons_append])
  · intro earlier caller redisKey later shape reader userId now member
    -- whoever ended the session had read the key, which had been written before that
    obtain ⟨witness, user, moment, found⟩ :=
      sanctioned earlier (.redis caller (.removed redisKey)) later shape
    obtain ⟨before, between, rfl⟩ := List.append_of_mem found
    obtain ⟨past, issuer, first, since, _, rfl, _⟩ :=
      read_valid run (by rw [shape, List.append_assoc, List.cons_append])
    have written : .put redisKey user first ∈
        (past ++ .redis (some issuer) (.put redisKey user first) :: since ++
          .redis witness (.read redisKey user moment) :: between).filterMap AdminSeen.ofKeys := by
      exact List.mem_filterMap.mpr
        ⟨AdminSeen.redis (some issuer) (.put redisKey user first), by simp, rfl⟩
    apply LeaseStore.removed_unread (LeaseStore.reaches_sound (reaches_keys run))
      (ofKeys_split shape) written userId now
    exact List.mem_filterMap.mpr ⟨_, member, rfl⟩

def sampleConfig : AdminApiConfig := ⟨["user_00001"], 60, "admin:session:"⟩

/-- The SHA-256 digest of "pw". -/
def sampleClientHash : List UInt8 :=
  [48, 201, 82, 250, 177, 34, 195, 249, 117, 159, 2, 166, 217, 92, 55, 88, 178, 70, 180, 254, 226,
    57, 149, 123, 45, 79, 238, 70, 226, 97, 112, 196]

/-- What is derived from the digest with the salt "salt". -/
def sampleDerived : List UInt8 :=
  [193, 216, 27, 164, 198, 149, 19, 225, 244, 96, 203, 113, 162, 61, 134, 102, 99, 152, 197, 36, 7,
    121, 30, 97, 146, 124, 224, 150, 47, 10, 112, 239]

/-- The foreign functions at the one password that is tried. -/
def sampleLibrary : PasswordLibrary where
  sha256 := fun bytes => if bytes = [112, 119] then sampleClientHash else []
  decode := fun text =>
    if text = "c2FsdA==" then some [115, 97, 108, 116]
    else if text = "wdgbpMaVE+H0YMtxoj2GZmOYxSQHeR5hknzgli8KcO8=" then some sampleDerived
    else none
  pbkdf2 := fun password salt _ _ =>
    if password = sampleClientHash ∧ salt = [115, 97, 108, 116] then sampleDerived else []

def postLogin : HttpRequest where
  method := .post
  path := "/api/auth/login"
  sessionKey := none
  body := { login := some ⟨"user_00001", "pw"⟩ }

/-- A request without a body, whose header says "k". -/
def withKey (method : Method) (path : String) : HttpRequest where
  method := method
  path := path
  sessionKey := some [107]

def postLogout : HttpRequest := withKey .post "/api/auth/logout"

def getStats : HttpRequest := withKey .get "/api/stats"

/-- An admin logs in and out again while a request is between its GET and its EXPIRE; that
request is served, the next one with the key is not. -/
def logoutMeanwhile : List AdminEvent :=
  [.arrive 0 postLogin,
    .database 0 (some (some ("wdgbpMaVE+H0YMtxoj2GZmOYxSQHeR5hknzgli8KcO8=", "c2FsdA=="))),
    .blocking 0 (some "k"), .redis 0 .done, .elapse 100, .arrive 1 getStats, .redis 1 .done,
    .arrive 2 postLogout, .redis 2 .done, .redis 2 .done, .redis 2 .done, .redis 1 .done,
    .arrive 3 getStats, .redis 3 .done]

theorem access_controlled_logoutMeanwhile :
    ∃ api history,
      (admin sampleConfig sampleLibrary).exec ⟨.empty, ⟨.empty, [], 0⟩⟩ logoutMeanwhile =
        some (api, history) ∧
      history[12]? = some (.request 1 (.ran .stats)) ∧
      history[11]? = some (.redis (some 2) (.removed "admin:session:k")) ∧
      (api.requests.get 3).map Progress.phase = some invalidKey ∧
      ∃ http key userId now before between, http.key = some key ∧
        .request 1 (.arrived http) ∈ history.take 12 ∧
        history.take 12 = before ++
          .redis (some 1) (.read (sampleConfig.redisKey key) userId now) :: between ∧
        Valid sampleConfig sampleLibrary before (sampleConfig.redisKey key) userId now := by
  have runs : ∃ api history,
      (admin sampleConfig sampleLibrary).exec ⟨.empty, ⟨.empty, [], 0⟩⟩ logoutMeanwhile =
        some (api, history) ∧
      history[12]? = some (.request 1 (.ran .stats)) ∧
      history[11]? = some (.redis (some 2) (.removed "admin:session:k")) ∧
      (api.requests.get 3).map Progress.phase = some invalidKey :=
    ⟨_, _, rfl, rfl, rfl, rfl⟩
  obtain ⟨api, history, executed, served, removed, refused⟩ := runs
  have run : (admin sampleConfig sampleLibrary).Reaches api history :=
    Machine.reaches_of_exec ⟨rfl, rfl, rfl⟩ executed
  exact ⟨api, history, executed, served, removed, refused,
    (access_controlled run).1 _ 1 .stats _ (split_at served) (by simp) (by simp)⟩

end RustGameserver.Admin
