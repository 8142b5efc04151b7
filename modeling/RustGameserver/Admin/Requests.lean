import RustGameserver.Admin.Routes
import RustGameserver.Db.Password
import RustGameserver.Foundation.LeaseStore

/-!
Contract: the requests of the AdminApi, as far as access to it goes.

Owns:
- `require_session_key`, `SessionKeyStore::{issue, validate, revoke}`, `login` and
  `logout`, cut where they wait;
- requests that run at the same time, over a Redis that carries out one command after
  the other.

Does not own: what the other handlers do once they run.
-/

namespace RustGameserver.Admin

open RustGameserver.Db
open RustGameserver.Foundation

structure AdminApiConfig where
  admins : List String
  sessionKeyTtlMinutes : Nat
  redisKeyPrefix : String
deriving DecidableEq, Repr

namespace AdminApiConfig

variable (config : AdminApiConfig)

/-- `ttl` of the `SessionKeyStore`, in seconds. -/
def ttl : Nat := config.sessionKeyTtlMinutes * 60 % 2 ^ 64

def redisKey (key : String) : String := config.redisKeyPrefix ++ key

/-- EXPIRE takes the seconds as an `i64`, and drops a key that is to live for none. -/
def renewal (key : String) : LeaseCall String String :=
  if 0 < config.ttl ∧ config.ttl < 2 ^ 63 then .renew (config.redisKey key) config.ttl
  else .expire (config.redisKey key)

end AdminApiConfig

structure LoginResponseDto where
  sessionKey : String
  expiresInMinutes : Nat
deriving DecidableEq, Repr

inductive Response where
  | status (code : Nat)
  | text (code : Nat) (body : String)
  | json (body : LoginResponseDto)
  /-- from an extractor that cannot read the request -/
  | rejected
deriving DecidableEq, Repr

/-- What a request waits for, if it is not finished. -/
inductive Phase where
  /-- the GET of `validate` -/
  | validating (key : String)
  /-- the EXPIRE of `validate` -/
  | renewing (key userId : String)
  | querying (req : LoginRequestDto)
  | verifying (req : LoginRequestDto) (storedHash salt : String)
  /-- the SETEX of `issue` -/
  | issuing (userId key : String)
  /-- the DEL of `revoke` -/
  | revoking (key : String)
  /-- a handler that does not bear on access -/
  | entrusted (handler : Handler)
  | finished (response : Response)
deriving DecidableEq, Repr

inductive RequestSeen where
  | arrived (http : HttpRequest)
  | ran (handler : Handler)
  | queried (userId : String) (row : Option (String × String))
  | verified (password storedHash salt : String) (verdict : Except PasswordError Bool)

/-- What a request does until it waits again. -/
structure Turn where
  phase : Phase
  seen : List RequestSeen

/-! ## The functions of the source, from wait to wait -/

def internalError : Phase := .finished (.status 500)

def invalidKey : Phase := .finished (.text 401 "invalid or expired session key")

def validate (key : String) : Phase := if key.isEmpty then invalidKey else .validating key

/-- `char::is_whitespace`. -/
def isWhitespace (char : Char) : Bool :=
  (9 ≤ char.toNat && char.toNat ≤ 13) || (0x2000 ≤ char.toNat && char.toNat ≤ 0x200a) ||
    [0x20, 0x85, 0xa0, 0x1680, 0x2028, 0x2029, 0x202f, 0x205f, 0x3000].contains char.toNat

def login (config : AdminApiConfig) (req : LoginRequestDto) : Phase :=
  if req.userId.toList.all isWhitespace || req.password.isEmpty then
    .finished (.text 400 "userId and password required")
  else if req.userId ∉ config.admins then .finished (.text 401 "not an admin account")
  else .querying req

def logout (http : HttpRequest) : Phase :=
  match http.key with
  | some key => .revoking key
  | none => .finished (.status 204)

def handle (config : AdminApiConfig) (http : HttpRequest) : Handler → Phase
  | .login =>
      match http.body.login with
      | some req => login config req
      | none => .finished .rejected
  | .logout => logout http
  | handler => .entrusted handler

/-- `next.run`, behind which the router has chosen already. -/
def next (config : AdminApiConfig) (http : HttpRequest) : Turn :=
  match endpoint http.path with
  | none => ⟨.finished (.status 404), []⟩
  | some (method, handler) =>
      if method.serves http.method then ⟨handle config http handler, [.ran handler]⟩
      else ⟨.finished (.status 405), []⟩

def requireSessionKey (config : AdminApiConfig) (http : HttpRequest) : Turn :=
  if isExempt http.path then next config http
  else
    match http.sessionKey with
    | none => ⟨.finished (.text 401 "missing X-Session-Key header"), []⟩
    | some value => ⟨validate ((headerText value).getD ""), []⟩

/-- The command to Redis that a request waits for. -/
def Phase.command (config : AdminApiConfig) : Phase → Option (LeaseCall String String)
  | .validating key => some (.read (config.redisKey key))
  | .renewing key _ => some (config.renewal key)
  | .issuing userId key => some (.put (config.redisKey key) userId config.ttl)
  | .revoking key => some (.remove (config.redisKey key))
  | .querying _ | .verifying .. | .entrusted _ | .finished _ => none

/-- How a command ends for the request. -/
inductive Reply where
  | done
  /-- It failed, or nobody waits for it any more; Redis may have carried it out. -/
  | failed (applied : Bool)
deriving DecidableEq, Repr

def Reply.applied : Reply → Bool
  | .done => true
  | .failed applied => applied

/-- What Redis does with a command that ends so. -/
def carryOut (keys : LeaseStore String String) (call : LeaseCall String String) (reply : Reply) :
    Option (LeaseStore String String × List (LeaseSeen String String)) :=
  if reply.applied then keys.step call else some (keys, [])

/-- How a request goes on after a command that it waited for, which GET finds in `keys`. -/
def resume (config : AdminApiConfig) (http : HttpRequest) (keys : LeaseStore String String)
    (phase : Phase) : Reply → Turn
  | .failed _ => ⟨internalError, []⟩
  | .done =>
      match phase with
      | .validating key =>
          match (keys.live (config.redisKey key)).filter fun lease => !lease.value.isEmpty with
          | some lease => ⟨.renewing key lease.value, []⟩
          | none => ⟨invalidKey, []⟩
      | .renewing .. => next config http
      | .issuing _ key => ⟨.finished (.json ⟨key, config.sessionKeyTtlMinutes⟩), []⟩
      | .revoking _ => ⟨.finished (.status 204), []⟩
      | other => ⟨other, []⟩

/-- `login` after the SELECT. -/
def onRow (req : LoginRequestDto) (row : Option (String × String)) : Turn where
  phase :=
    match row with
    | some (storedHash, salt) => .verifying req storedHash salt
    | none => .finished (.text 401 "invalid credentials")
  seen := [.queried req.userId row]

/-- `login` after `spawn_blocking`; `key` is what `issue` draws if it comes to that. -/
def onVerified (library : PasswordLibrary) (req : LoginRequestDto) (storedHash salt key : String) :
    Turn :=
  let verdict := library.verify (library.clientHash req.password) storedHash salt
  { phase :=
      match verdict with
      | .error _ => internalError
      | .ok false => .finished (.text 401 "invalid credentials")
      | .ok true => .issuing req.userId key
    seen := [.verified req.password storedHash salt verdict] }

/-! ## Requests at the same time -/

abbrev RequestId : Type := Nat

structure Progress where
  http : HttpRequest
  phase : Phase

structure AdminApi where
  requests : FiniteMap RequestId Progress
  keys : LeaseStore String String

inductive AdminEvent where
  | arrive (id : RequestId) (http : HttpRequest)
  | redis (id : RequestId) (reply : Reply)
  /-- the answer to the SELECT; `none` if it failed -/
  | database (id : RequestId) (answer : Option (Option (String × String)))
  /-- the end of the blocking task; `none` if it could not be joined -/
  | blocking (id : RequestId) (drawn : Option String)
  /-- Redis lets go of a key. -/
  | expire (redisKey : String)
  | elapse (now : Nat)

inductive AdminSeen where
  | request (id : RequestId) (seen : RequestSeen)
  | redis (caller : Option RequestId) (seen : LeaseSeen String String)

namespace AdminApi

/-- A request goes on. -/
def turn (api : AdminApi) (id : RequestId) (http : HttpRequest) (turn : Turn) : AdminApi :=
  { api with requests := api.requests.insert id ⟨http, turn.phase⟩ }

def step (config : AdminApiConfig) (library : PasswordLibrary) (api : AdminApi) :
    AdminEvent → Option (AdminApi × List AdminSeen)
  | .arrive id http =>
      match api.requests.get id with
      | some _ => none
      | none =>
          let turn := requireSessionKey config http
          some (api.turn id http turn,
            .request id (.arrived http) :: turn.seen.map (.request id))
  | .redis id reply =>
      match api.requests.get id with
      | none => none
      | some progress =>
          match progress.phase.command config with
          | none => none
          | some call =>
              match carryOut api.keys call reply with
              | none => none
              | some (keys, seen) =>
                  let turn := resume config progress.http api.keys progress.phase reply
                  some ({ api with keys }.turn id progress.http turn,
                    seen.map (.redis (some id)) ++ turn.seen.map (.request id))
  | .database id answer =>
      match api.requests.get id with
      | some ⟨http, .querying req⟩ =>
          let turn :=
            match answer with
            | some row => onRow req row
            | none => ⟨internalError, []⟩
          some (api.turn id http turn, turn.seen.map (.request id))
      | _ => none
  | .blocking id drawn =>
      match api.requests.get id with
      | some ⟨http, .verifying req storedHash salt⟩ =>
          let turn :=
            match drawn with
            | some key => onVerified library req storedHash salt key
            | none => ⟨internalError, []⟩
          some (api.turn id http turn, turn.seen.map (.request id))
      | _ => none
  | .expire redisKey =>
      (api.keys.step (.expire redisKey)).map fun (keys, seen) =>
        ({ api with keys }, seen.map (.redis none))
  | .elapse now =>
      (api.keys.step (.elapse now)).map fun (keys, seen) =>
        ({ api with keys }, seen.map (.redis none))

end AdminApi

/-- The AdminApi as a machine. -/
def admin (config : AdminApiConfig) (library : PasswordLibrary) :
    Machine AdminApi AdminEvent AdminSeen where
  Initial := fun api => api.requests = .empty ∧ LeaseStore.machine.Initial api.keys
  step := AdminApi.step config library

end RustGameserver.Admin
