import RustGameserver.GameServer.Session
import RustGameserver.LoginServer.Backend

/-!
Contract: the value LoginServer stores under a token, as GameServer reads it.

Owns:
- that the value is read back as it was written, so that it names one account;
- exactly which values are read at all, and as which account.

Does not own: how the value travels from one server to the other.
-/

namespace RustGameserver.Servers

open RustGameserver.Foundation

/-- GameServer reads a decimal number of the type of account ids, a colon, and
whatever follows as the user id. -/
theorem parseTokenValue_eq_some_iff (value : String) (accountId : UInt64) (userId : String) :
    GameServer.parseTokenValue value = some ⟨accountId, userId⟩ ↔
      ∃ numeral, ':' ∉ numeral ∧ Decimal.Numeral numeral accountId.toNat ∧
        value.toList = numeral ++ ':' :: userId.toList := by
  unfold GameServer.parseTokenValue
  constructor
  · intro read
    split at read
    · contradiction
    · next numeral rest split =>
        rw [Decimal.splitOnce_eq_some_iff] at split
        split at read
        · contradiction
        · next number parsed =>
            rw [Decimal.parse_eq_some_iff _ _ (by decide)] at parsed
            rw [Option.some.injEq, GameServer.Account.mk.injEq] at read
            have same : accountId.toNat = number := by
              rw [← read.1]
              exact UInt64.toNat_ofNat_of_lt' parsed.2
            have letters : userId.toList = rest := by
              rw [← read.2, String.toList_ofList]
            refine ⟨numeral, split.1, ?_, ?_⟩
            · rw [same]
              exact parsed.1
            · rw [letters]
              exact split.2
  · rintro ⟨numeral, absent, denotes, letters⟩
    have parsed : Decimal.parse UInt64.size numeral = some accountId.toNat :=
      (Decimal.parse_eq_some_iff _ _ (by decide)).mpr ⟨denotes, accountId.toNat_lt⟩
    rw [letters, Decimal.splitOnce_append ':' absent]
    simp only [parsed]
    simp

/-- A printed account id is a numeral, and has no colon in it. -/
theorem numeral_toDigits (number : Nat) :
    ':' ∉ Nat.toDigits 10 number ∧ Decimal.Numeral (Nat.toDigits 10 number) number := by
  have numeral : ∀ digit ∈ Nat.toDigits 10 number, digit.isDigit = true :=
    fun digit member => Nat.isDigit_of_mem_toDigits (by decide) (by decide) member
  constructor
  · intro member
    have digit := numeral ':' member
    contradiction
  · exact ⟨_, Nat.toDigits_ne_nil, Or.inl rfl, numeral, Nat.ofDigitChars_ten_toDigits⟩

/-- GameServer reads what LoginServer wrote. -/
theorem parseTokenValue_tokenValue (accountId : UInt64) (userId : String) :
    GameServer.parseTokenValue (LoginServer.tokenValue accountId userId) =
      some ⟨accountId, userId⟩ := by
  have printed := numeral_toDigits accountId.toNat
  rw [parseTokenValue_eq_some_iff]
  exact ⟨_, printed.1, printed.2, by simp [LoginServer.tokenValue]⟩

/-- Whatever the account and whatever stands in its user id, the stored value is
read back as that account, so no two accounts share a value.  A value is read as
an account exactly when it is a decimal number below `2 ^ 64`, signed with a plus
or not at all, then a colon, then the user id. -/
theorem tokenValue_unambiguous :
    (∀ (accountId : UInt64) (userId : String),
      GameServer.parseTokenValue (LoginServer.tokenValue accountId userId) =
        some ⟨accountId, userId⟩) ∧
    (∀ (first second : UInt64) (firstUser secondUser : String),
      LoginServer.tokenValue first firstUser = LoginServer.tokenValue second secondUser →
        first = second ∧ firstUser = secondUser) ∧
    ∀ (value : String) (accountId : UInt64) (userId : String),
      GameServer.parseTokenValue value = some ⟨accountId, userId⟩ ↔
        ∃ (numeral : String) (number : Nat),
          value = numeral ++ ":" ++ userId ∧ ':' ∉ numeral.toList ∧
            Decimal.Numeral numeral.toList number ∧ number ≤ 2 ^ 64 - 1 ∧
            accountId.toNat = number := by
  refine ⟨parseTokenValue_tokenValue, ?_, ?_⟩
  · intro first second firstUser secondUser same
    have read := parseTokenValue_tokenValue first firstUser
    rw [same, parseTokenValue_tokenValue, Option.some.injEq, GameServer.Account.mk.injEq] at read
    exact ⟨read.1.symm, read.2.symm⟩
  · intro value accountId userId
    rw [parseTokenValue_eq_some_iff]
    constructor
    · rintro ⟨numeral, absent, denotes, letters⟩
      refine ⟨String.ofList numeral, accountId.toNat, ?_, ?_, ?_, ?_, rfl⟩
      · rw [← String.toList_inj, letters]
        simp
      · rwa [String.toList_ofList]
      · rwa [String.toList_ofList]
      · have bound := accountId.toNat_lt
        omega
    · rintro ⟨numeral, number, rfl, absent, denotes, _, rfl⟩
      exact ⟨numeral.toList, absent, denotes, by simp⟩

end RustGameserver.Servers
