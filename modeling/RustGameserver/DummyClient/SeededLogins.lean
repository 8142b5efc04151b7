import RustGameserver.DummyClient.Accounts
import RustGameserver.Foundation.Base64
import RustGameserver.LoginServer.Verdict

/-!
Contract: the logins that a seeding makes possible.

Owns:
- a seeding with a password, whose hashes are made by `generate_stored_hash`;
- `find_account` in the table of accounts;
- what is said about credentials before the seeding and after it;
- how the logins of the seeded accounts end.

Does not own: accounts that are changed after the seeding.
-/

namespace RustGameserver.DummyClient

open RustGameserver.Db
open RustGameserver.Foundation
open RustGameserver.LoginServer
open RustGameserver.Net
open RustGameserver.Session

/-- `seed` with this password. The salts are those that are drawn. -/
def withPassword (library : PasswordLibrary) (encode : List UInt8 → String) (password : String)
    (salts : Nat → Nat → Nat → Salt) (conditions : SeedConditions) : SeedConditions :=
  { conditions with
    storedHash := fun batch worker round =>
      library.generateStoredHash encode (library.clientHash password) (salts batch worker round) }

variable {Weight : Type} [DecidableEq Weight] {collation : String → Weight}

/-- `find_account`, which compares user ids as the collation does. -/
def findAccount (table : AccountTable collation) : Accounts :=
  fun userId => table.find (collation userId)

variable {library : PasswordLibrary} {encode : List UInt8 → String} {password : String}
  {salts : Nat → Nat → Nat → Salt} {accountIds : Nat → UInt64} {conditions : SeedConditions}
  {accountCount : Nat} {before after : AccountTable collation}

/-! ## One account -/

theorem varchar_short {width : Nat} {text : String} (short : text.length ≤ width) :
    varchar width text = text := by
  rw [varchar, List.take_of_length_le short, String.ofList_toList]

/-- A seeded account is not banned, and is verified with what derives the key that its
password derives. -/
theorem seeded_verify (standard : library.Standard encode) {row : AccountRow}
    (seeded : Seeded (withPassword library encode password salts conditions) accountCount row) :
    row.status ≠ 1 ∧ ∃ index, 1 ≤ index ∧ index ≤ accountCount ∧ row.userId = userId index ∧
      ∃ salt : Salt, ∀ tried, library.verify tried row.passwordHash row.salt =
        .ok (library.derive tried salt == library.derive (library.clientHash password) salt) := by
  obtain ⟨index, accountId, hash, salt, first, last, ⟨batch, worker, round, generated⟩, rfl⟩ :=
    seeded
  have pair : (hash, salt) = library.generateStoredHash encode (library.clientHash password)
      (salts batch worker round) := generated
  have short := PasswordLibrary.generateStoredHash_length standard (library.clientHash password)
    (salts batch worker round)
  rw [← pair] at short
  have hashKept : varchar 88 hash = hash := varchar_short (short.1.le.trans (by decide))
  have saltKept : varchar 88 salt = salt := varchar_short (short.2.le.trans (by decide))
  have unbanned : (0 : UInt8) ≠ 1 := by decide
  refine ⟨unbanned, index, first, last, rfl, salts batch worker round, ?_⟩
  intro tried
  have verify := PasswordLibrary.verify_generateStoredHash standard (library.clientHash password)
    tried (salts batch worker round)
  rw [← pair] at verify
  simp only [hashKept, saltKept]
  exact verify

/-! ## The table -/

/-- A row that a seeding has added is that of one of its accounts. -/
theorem seeded_of_found (small : accountCount < usizeMax)
    (seeds : Seeds accountIds conditions accountCount before after) {weight : Weight}
    {row : AccountRow} (absent : before.find weight = none)
    (found : after.find weight = some row) :
    Seeded conditions accountCount row ∧ collation row.userId = weight := by
  obtain ⟨rows, among, inserted⟩ := seeds.inserts
  rw [inserted, KeyedTable.find_insertAll, absent, Option.none_or] at found
  have member := among.subset (List.mem_of_find?_eq_some found)
  exact ⟨mem_storedRows small member, by simpa using List.find?_some found⟩

/-- A row that was there is still found. -/
theorem find_kept (seeds : Seeds accountIds conditions accountCount before after)
    {weight : Weight} (present : (before.find weight).isSome) :
    after.find weight = before.find weight := by
  obtain ⟨rows, _, inserted⟩ := seeds.inserts
  rw [inserted, KeyedTable.find_insertAll, Option.or_of_isSome present]

/-- What is said about credentials is up to the row of their user id. -/
theorem judge_congr {left right : Accounts} {user : String} (same : left user = right user)
    (clientHash : List UInt8) :
    judge library left user clientHash = judge library right user clientHash := by
  rw [judge, judge, same]

/-- A row that a seeding has added can log in with the password. -/
theorem seeded_granted (standard : library.Standard encode) (small : accountCount < usizeMax)
    (seeds : Seeds accountIds (withPassword library encode password salts conditions) accountCount
      before after) {user : String} {row : AccountRow}
    (absent : before.find (collation user) = none)
    (found : after.find (collation user) = some row) :
    judge library (findAccount after) user (library.clientHash password) = .granted row ∧
      collation row.userId = collation user := by
  obtain ⟨seeded, same⟩ := seeded_of_found small seeds absent found
  obtain ⟨unbanned, _, _, _, _, salt, verify⟩ := seeded_verify standard seeded
  have known : findAccount after user = some row := found
  refine ⟨?_, same⟩
  simp [judge, known, verify, unbanned]

/-- A seeding lets log in, of those without a row before it, the accounts `1` to
`accountCount` only, and these only with what derives the key of its password; it changes
nothing for those with a row. After a complete seeding every account that had no row can log
in with the password. -/
theorem seeding_admits (standard : library.Standard encode) (small : accountCount < usizeMax)
    (seeds : Seeds accountIds (withPassword library encode password salts conditions) accountCount
      before after) :
    (∀ user clientHash, (before.find (collation user)).isSome →
      judge library (findAccount after) user clientHash =
        judge library (findAccount before) user clientHash) ∧
    (∀ user clientHash row, before.find (collation user) = none →
      judge library (findAccount after) user clientHash = .granted row →
      ∃ index, 1 ≤ index ∧ index ≤ accountCount ∧ row.userId = userId index ∧
        collation (userId index) = collation user ∧
        ∃ salt : Salt, library.derive clientHash salt =
          library.derive (library.clientHash password) salt) ∧
    ((seed (withPassword library encode password salts conditions) accountCount).2 = none →
      ∀ index, 1 ≤ index → index ≤ accountCount →
        before.find (collation (userId index)) = none →
        ∃ row, judge library (findAccount after) (userId index) (library.clientHash password) =
            .granted row ∧
          collation row.userId = collation (userId index)) := by
  refine ⟨?_, ?_, ?_⟩
  · intro user clientHash present
    exact judge_congr (find_kept seeds present) clientHash
  · intro user clientHash row absent granted
    obtain ⟨found, verified, _⟩ := judge_granted granted
    obtain ⟨seeded, same⟩ := seeded_of_found small seeds absent found
    obtain ⟨_, index, first, last, named, salt, verify⟩ := seeded_verify standard seeded
    rw [verify, Except.ok.injEq, beq_iff_eq] at verified
    rw [named] at same
    exact ⟨index, first, last, named, same, salt, verified⟩
  · intro complete index first last absent
    obtain ⟨row, found⟩ :=
      Option.isSome_iff_exists.mp (seeds.covers small complete first last)
    exact ⟨row, seeded_granted standard small seeds absent found⟩

/-- The password of the sample, hashed by its client. -/
def sampleHash : List UInt8 :=
  [94, 136, 72, 152, 218, 40, 4, 113, 81, 208, 229, 111, 141, 198, 41, 39, 115, 96, 61, 13, 106,
    171, 189, 214, 42, 17, 239, 114, 29, 21, 66, 216]

def sampleSalt : Salt := ⟨(List.range 32).map UInt8.ofNat, rfl⟩

/-- The foreign functions, as far as one password with one salt needs them. -/
def base64Library : PasswordLibrary where
  sha256 := fun text => if text = "password".toUTF8.data.toList then sampleHash else []
  decode := Base64.decode
  pbkdf2 := fun password salt rounds size =>
    if password = sampleHash ∧ salt = sampleSalt ∧ rounds = iterations ∧ size = hashSize then
      [166, 22, 38, 207, 97, 226, 138, 97, 34, 10, 160, 243, 206, 66, 193, 171, 169, 123, 31, 191,
        29, 108, 46, 100, 212, 42, 16, 252, 141, 91, 28, 196]
    else List.replicate size 0

theorem base64Library_standard : base64Library.Standard Base64.encode where
  decode_encode := Base64.decode_encode
  encode_length := Base64.encode_length
  pbkdf2_length := by
    intro password salt rounds size
    simp only [base64Library]
    split
    · next sample =>
        rw [sample.2.2.2]
        rfl
    · exact List.length_replicate

/-- One account, in a table that has been empty. -/
def oneSeeded : SeedConditions :=
  withPassword base64Library Base64.encode "password" (fun _ _ _ => sampleSalt) plainSeeding

def noAccounts : AccountTable id := ⟨[], List.nodup_nil⟩

theorem oneSeeded_seeds :
    Seeds (fun _ => 1) oneSeeded 1 noAccounts
      (noAccounts.insertAll (storedRows (fun _ => 1) (seed oneSeeded 1).1.bound)) := by
  refine ⟨?_, .inl rfl⟩
  intro index row rows found affected
  rcases index with _ | _
  · cases found
    cases affected
    rfl
  · contradiction

theorem seeding_admits_oneSeeded :
    ∃ (after : AccountTable id) (row : AccountRow),
      judge base64Library (findAccount after) (userId 1) (base64Library.clientHash "password") =
          .granted row ∧
        row.userId = userId 1 := by
  have admits := seeding_admits base64Library_standard (by decide) oneSeeded_seeds
  obtain ⟨row, granted, same⟩ := admits.2.2 rfl 1 (by decide) (by decide) rfl
  exact ⟨_, row, granted, same⟩

/-! ## The logins -/

/-- After a complete seeding, in every run of the LoginServer over the table, every login for
an account that the seeding has added, with its password, ends with a success for this
account, unless the backend of the login fails; and only then with an error. -/
theorem seeded_logins_succeed (standard : library.Standard encode)
    (small : accountCount < usizeMax)
    (seeds : Seeds accountIds (withPassword library encode password salts conditions) accountCount
      before after)
    (complete : (seed (withPassword library encode password salts conditions) accountCount).2 =
      none)
    {keepAliveTimeout : Nat} {state : LoginState} {history : List LoginSeen}
    (run : (scheduled keepAliveTimeout library (findAccount after)).Reaches state history)
    {sessionId : SessionId} {task : LoginTask} (present : state.tasks.get sessionId = some task)
    {index : Nat} (first : 1 ≤ index) (last : index ≤ accountCount)
    (absent : before.find (collation (userId index)) = none) :
    ∀ job ∈ task.jobs,
      job.calls.head? = some (.findAccount (userId index) (library.clientHash password)) →
      ∀ outcome, job.state = .finished outcome ∨ job.state = .ended outcome →
        (∃ account token, outcome = .success account token ∧
          collation account.userId = collation (userId index)) ∨
        job.replies.any Reply.troubled = true ∧ outcome.isTrouble = true := by
  intro job member asked outcome ended
  obtain ⟨user, clientHash, head, stands⟩ := reaches_judged run present job member
  rw [head, Option.some.injEq, Work.findAccount.injEq] at asked
  obtain ⟨rfl, rfl⟩ := asked
  have closed : Closed (judge library (findAccount after) (userId index)
      (library.clientHash password)) job.replies outcome := by
    rcases ended with same | same <;> rw [same] at stands <;> exact stands
  obtain ⟨row, found⟩ := Option.isSome_iff_exists.mp (seeds.covers small complete first last)
  obtain ⟨granted, same⟩ := seeded_granted standard small seeds absent found
  rw [granted] at closed
  rcases closed with ⟨token, success⟩ | trouble
  · exact .inl ⟨_, token, success, same⟩
  · exact .inr trouble

/-- The table of the sample, seeded. -/
def oneAccount : AccountTable id :=
  noAccounts.insertAll (storedRows (fun _ => 1) (seed oneSeeded 1).1.bound)

/-- A client logs in with the password. -/
def seededLogin : List Turn :=
  [.server .generate, .server (.accept 1 ⟨0⟩ 0), .server (.session 1 .greet),
    .server (.session 1 (.poll false)),
    .server (.session 1 (.select 1
      (some (.message ⟨0, some (.loginRequest ⟨userId 1, sampleHash⟩)⟩)))),
    .backend 1 0 working, .backend 1 0 working, .backend 1 0 working, .backend 1 0 working]

theorem seeded_logins_succeed_oneSeeded :
    ∃ state history task job outcome,
      (scheduled 10 base64Library (findAccount oneAccount)).exec
        ⟨.default, .empty, 0, [], [], false⟩ seededLogin = some (state, history) ∧
      state.tasks.get 1 = some task ∧ job ∈ task.jobs ∧ job.state = .finished outcome ∧
      ∃ account token, outcome = .success account token ∧ account.userId = userId 1 := by
  have runs : ∃ state history task job outcome,
      (scheduled 10 base64Library (findAccount oneAccount)).exec
        ⟨.default, .empty, 0, [], [], false⟩ seededLogin = some (state, history) ∧
      state.tasks.get 1 = some task ∧ task.jobs = [job] ∧ job.state = .finished outcome ∧
      job.calls.head? = some (.findAccount (userId 1) (base64Library.clientHash "password")) ∧
      job.replies.any Reply.troubled = false :=
    ⟨_, _, _, _, _, rfl, rfl, rfl, rfl, rfl, rfl⟩
  obtain ⟨state, history, task, job, outcome, executed, present, only, ended, asked, untroubled⟩ :=
    runs
  have member : job ∈ task.jobs := by
    rw [only]
    exact List.mem_singleton_self job
  have succeeds := seeded_logins_succeed base64Library_standard (by decide) oneSeeded_seeds rfl
    (Machine.reaches_of_exec rfl executed) present (by decide) (by decide) rfl job member asked
    outcome (.inl ended)
  rw [untroubled] at succeeds
  refine ⟨state, history, task, job, outcome, executed, present, member, ended, ?_⟩
  rcases succeeds with success | ⟨trouble, _⟩
  · exact success
  · contradiction

end RustGameserver.DummyClient
