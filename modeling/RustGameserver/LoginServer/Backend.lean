import RustGameserver.Session.Task

/-!
Contract: `login_server::backend` and the password check, as a login task sees
them.

Owns: the points at which `authenticate` waits, with the variables it needs
afterwards, and the replies it can get there.

Does not own: MySQL, Redis and the blocking thread, which answer.
-/

namespace RustGameserver.LoginServer

structure AccountRow where
  accountId : UInt64
  userId : String
  passwordHash : String
  salt : String
  /-- 0 is normal, 1 is banned. -/
  status : UInt8
deriving DecidableEq, Repr

inductive BackendError where
  | sql
  | redis
deriving DecidableEq, Repr

/-- Why there is no verdict on a password: the stored strings are not Base64, or
the blocking task failed. -/
inductive VerifyError where
  | invalidBase64
  | join
deriving DecidableEq, Repr

/-- Where a login task waits.  The permit of `hash_limiter` is held during
`verify` only. -/
inductive Work where
  | findAccount (userId : String) (clientHash : List UInt8)
  | verify (row : AccountRow) (clientHash : List UInt8)
  | touchLastLogin (row : AccountRow)
  | issueAuthToken (row : AccountRow)
deriving DecidableEq, Repr

inductive Reply where
  | account (result : Except BackendError (Option AccountRow))
  | verified (result : Except VerifyError Bool)
  | touched (result : Except BackendError Unit)
  | issued (result : Except BackendError (Option String))
deriving DecidableEq

/-- The value that `issue_auth_token` stores under a token. -/
def tokenValue (accountId : UInt64) (userId : String) : String :=
  String.ofList (Nat.toDigits 10 accountId.toNat) ++ ":" ++ userId

end RustGameserver.LoginServer
