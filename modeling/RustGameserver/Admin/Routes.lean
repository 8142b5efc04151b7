import RustGameserver.Foundation.Decimal

/-!
Contract: the routes of the AdminApi, and which of them need no session key.

Owns:
- a request as far as `router`, `require_session_key` and the extractors look at it;
- the route a path leads to, with its parameter, and the paths that are exempt;
- that no exempt path leads to a protected handler.

Does not own: what the handlers do, and how a body is read as JSON.
-/

namespace RustGameserver.Admin

open RustGameserver.Foundation

inductive Method where
  | get
  | head
  | post
  | other
deriving DecidableEq, Repr

/-- The functions of `admin::handlers` that have a route. -/
inductive Handler where
  | login
  | logout
  | health
  | notice
  | scoresByAccount
  | scoresTop
  | sessions
  | disconnect
  | stats
deriving DecidableEq, Repr

structure LoginRequestDto where
  userId : String
  password : String
deriving DecidableEq, Repr

structure NoticeRequestDto where
  message : String
deriving DecidableEq, Repr

structure ScoresQuery where
  accountId : UInt64
  limit : Option Int64
deriving DecidableEq

structure TopQuery where
  limit : Option Int64
deriving DecidableEq

/-- A body as `login` and as `notice` take it, if it can be read so. -/
structure Body where
  login : Option LoginRequestDto := none
  notice : Option NoticeRequestDto := none
deriving DecidableEq

/-- A query string as `scores_by_account` and as `scores_top` take it, if it can be read so. -/
structure Query where
  scores : Option ScoresQuery := some ⟨0, none⟩
  top : Option TopQuery := some ⟨none⟩
deriving DecidableEq

structure HttpRequest where
  method : Method
  path : String
  /-- The bytes of the first `X-Session-Key` header. -/
  sessionKey : Option (List UInt8)
  body : Body := {}
  query : Query := {}
deriving DecidableEq

/-- `HeaderValue::to_str`: visible ASCII characters, blanks and tabs only. -/
def headerText (value : List UInt8) : Option String :=
  if value.all fun byte => (32 ≤ byte && byte < 127) || byte == 9 then
    some (String.ofList (value.map fun byte => Char.ofNat byte.toNat))
  else none

/-- The key that the request carries, if it is text. -/
def HttpRequest.key (http : HttpRequest) : Option String := http.sessionKey.bind headerText

/-- `str::eq_ignore_ascii_case`. -/
def eqIgnoreAsciiCase (one other : String) : Bool :=
  one.toList.map Char.toLower == other.toList.map Char.toLower

/-- `EXEMPT_PATHS`. -/
def exemptPaths : List String := ["/api/health", "/api/auth/login"]

def isExempt (path : String) : Bool := exemptPaths.any fun exempt => eqIgnoreAsciiCase exempt path

/-- The parameter of `/api/sessions/{session_id}/disconnect`, one segment that may be empty. -/
def disconnectSegment (path : String) : Option (List Char) :=
  let chars := path.toList
  let front := "/api/sessions/".toList
  let back := "/disconnect".toList
  let segment := (chars.drop front.length).take (chars.length - front.length - back.length)
  if chars = front ++ segment ++ back ∧ '/' ∉ segment then some segment else none

def isDisconnectPath (path : String) : Bool := (disconnectSegment path).isSome

def hexDigit (char : Char) : Option Nat :=
  if char.isDigit then some (char.toNat - '0'.toNat)
  else if 'a' ≤ char ∧ char ≤ 'f' then some (char.toNat - 'a'.toNat + 10)
  else if 'A' ≤ char ∧ char ≤ 'F' then some (char.toNat - 'A'.toNat + 10)
  else none

/-- `%` with two hexadecimal digits behind it stands for a byte, here for the character of
its number, since a byte beyond ASCII is no part of a numeral in any text. -/
def percentDecode : List Char → List Char
  | '%' :: high :: low :: rest =>
      match hexDigit high, hexDigit low with
      | some high, some low => Char.ofNat (16 * high + low) :: percentDecode rest
      | _, _ => '%' :: percentDecode (high :: low :: rest)
  | char :: rest => char :: percentDecode rest
  | [] => []

/-- `Path<u64>` of `disconnect`. -/
def HttpRequest.sessionId (http : HttpRequest) : Option UInt64 :=
  (disconnectSegment http.path).bind fun segment =>
    (Decimal.parse UInt64.size (percentDecode segment)).map UInt64.ofNat

theorem percentDecode_plain {chars : List Char} (plain : '%' ∉ chars) :
    percentDecode chars = chars := by
  induction chars with
  | nil => rfl
  | cons char rest inductionHypothesis =>
      rw [List.mem_cons, not_or] at plain
      rw [percentDecode, inductionHypothesis plain.2]
      rintro high low later same _
      exact plain.1 same.symm

theorem disconnectSegment_eq {path : String} {segment : List Char} (one : '/' ∉ segment)
    (shape : path.toList = "/api/sessions/".toList ++ segment ++ "/disconnect".toList) :
    disconnectSegment path = some segment := by
  have within : (path.toList.drop "/api/sessions/".toList.length).take
      (path.toList.length - "/api/sessions/".toList.length - "/disconnect".toList.length) =
        segment := by
    simp [shape]
  simp only [disconnectSegment, within]
  exact if_pos ⟨shape, one⟩

/-- The path that is made with a session id names this session. -/
theorem sessionId_printed {http : HttpRequest} (sessionId : UInt64)
    (shape : http.path.toList =
      "/api/sessions/".toList ++ Nat.toDigits 10 sessionId.toNat ++ "/disconnect".toList) :
    http.sessionId = some sessionId := by
  have digits : ∀ char ∈ Nat.toDigits 10 sessionId.toNat, char.isDigit = true :=
    fun char member => Nat.isDigit_of_mem_toDigits (by decide) (by decide) member
  have one : '/' ∉ Nat.toDigits 10 sessionId.toNat := by
    intro member
    have digit := digits _ member
    contradiction
  have plain : '%' ∉ Nat.toDigits 10 sessionId.toNat := by
    intro member
    have digit := digits _ member
    contradiction
  rw [HttpRequest.sessionId, disconnectSegment_eq one shape, Option.bind_some,
    percentDecode_plain plain, Decimal.parse_toDigits sessionId.toNat_lt, Option.map_some,
    UInt64.ofNat_toNat]

/-- The route of `router` that a path takes, which heeds the case of letters. -/
def endpoint (path : String) : Option (Method × Handler) :=
  if path = "/api/auth/login" then some (.post, .login)
  else if path = "/api/auth/logout" then some (.post, .logout)
  else if path = "/api/health" then some (.get, .health)
  else if path = "/api/notice" then some (.post, .notice)
  else if path = "/api/scores" then some (.get, .scoresByAccount)
  else if path = "/api/scores/top" then some (.get, .scoresTop)
  else if path = "/api/sessions" then some (.get, .sessions)
  else if isDisconnectPath path then some (.post, .disconnect)
  else if path = "/api/stats" then some (.get, .stats)
  else none

/-- A `get` route also answers HEAD. -/
def Method.serves : Method → Method → Bool
  | .get, .get | .get, .head | .post, .post => true
  | _, _ => false

/-- The router chooses this handler for the request. -/
def HttpRequest.asksFor (http : HttpRequest) (handler : Handler) : Prop :=
  ∃ method, endpoint http.path = some (method, handler) ∧ method.serves http.method = true

/-- A path that ends a session is not exempt, in whatever case it is compared. -/
theorem disconnect_not_exempt {path : String} (disconnects : isDisconnectPath path = true) :
    isExempt path = false := by
  simp only [isDisconnectPath, disconnectSegment, Option.isSome_ite] at disconnects
  have shape := disconnects.1
  generalize (path.toList.drop _).take _ = segment at shape
  rw [Bool.eq_false_iff]
  intro exempt
  simp only [isExempt, exemptPaths, List.any_cons, List.any_nil, Bool.or_false, Bool.or_eq_true,
    eqIgnoreAsciiCase, beq_iff_eq, shape] at exempt
  -- they differ in the sixth character at the latest
  rcases exempt with same | same
  · have sixth := congrArg (fun chars => chars[5]?) same
    simp at sixth
  · have sixth := congrArg (fun chars => chars[5]?) same
    simp at sixth

/-- The exempt paths lead to `login` and `health`, or nowhere. -/
theorem exempt_endpoint {path : String} {method : Method} {handler : Handler}
    (exempt : isExempt path = true) (leads : endpoint path = some (method, handler)) :
    handler = .login ∨ handler = .health := by
  have protected_path : ∀ fixed, path = fixed → isExempt fixed = false → False := by
    rintro fixed rfl other
    rw [exempt] at other
    contradiction
  simp only [endpoint] at leads
  split at leads
  · cases leads
    exact .inl rfl
  split at leads
  · next same => exact (protected_path _ same (by decide)).elim
  split at leads
  · cases leads
    exact .inr rfl
  split at leads
  · next same => exact (protected_path _ same (by decide)).elim
  split at leads
  · next same => exact (protected_path _ same (by decide)).elim
  split at leads
  · next same => exact (protected_path _ same (by decide)).elim
  split at leads
  · next same => exact (protected_path _ same (by decide)).elim
  split at leads
  · next disconnects => exact (protected_path _ rfl (disconnect_not_exempt disconnects)).elim
  split at leads
  · next same => exact (protected_path _ same (by decide)).elim
  · contradiction

end RustGameserver.Admin
