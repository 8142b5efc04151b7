import RustGameserver.Net.Acceptor

/-!
Contract: how many connections of one address the flood guard lets in.

Owns:
- the admissions of one address among the calls of a run;
- the bound on them in every closed interval of the length of the window, for the
  reference and, through the simulation, for the guard.

Does not own: how the guard decides; only its agreement with the reference is used.
-/

namespace RustGameserver.Net

open RustGameserver.Foundation

/-! ## The reference -/

namespace Reference

/-- The connections admitted in the closed interval of ten seconds from `start`. -/
def within (reference : Reference) (start : Nat) : Nat :=
  reference.admitted.countP fun t => start ≤ t ∧ t ≤ start + fromSecs 10

/-- Whatever lies in an interval that has not ended yet was admitted recently. -/
theorem within_le_recent (reference : Reference) {start now : Nat}
    (unfinished : now ≤ start + fromSecs 10) : reference.within start ≤ reference.recent now := by
  rw [within, recent, ← List.countP_eq_length_filter]
  apply List.countP_mono_left
  intro t member inside
  rw [decide_eq_true_eq] at inside ⊢
  unfold durationSince
  omega

/-- A call that is judged keeps every interval within the bound. -/
theorem judge_within (reference : Reference) (now start : Nat)
    (bounded : reference.within start ≤ 30) : (reference.judge now).2.within start ≤ 30 := by
  unfold judge
  split
  · exact bounded
  · split
    · exact bounded
    · next few =>
        show (reference.admitted ++ [now]).countP _ ≤ 30
        rw [List.countP_append, List.countP_singleton]
        split
        · next inside =>
            -- the new connection is the last of its interval
            rw [decide_eq_true_eq] at inside
            have recent := reference.within_le_recent inside.2
            unfold within at recent
            omega
        · exact bounded

end Reference

/-! ## The guard -/

/-- The times at which calls of one canonical address were let through, given the
verdicts on all calls. -/
def admissions (ip : IpAddr) (calls : List Call) (blocked : List Bool) : List Nat :=
  (calls.zip blocked).filterMap fun judged =>
    if judged.1.ip.toCanonical = ip ∧ judged.2 = false then some judged.1.now else none

/-- The reference admits its own calls exactly when its verdict lets them through. -/
theorem Reference.after_admitted (earlier : List Call) (call : Call) {ip : IpAddr}
    (guarded : isAllowlisted ip = false) :
    (Reference.after ip (earlier ++ [call])).admitted =
      (Reference.after ip earlier).admitted ++
        admissions ip [call] [Reference.verdict earlier call] := by
  rw [Reference.after_append]
  by_cases own : call.ip.toCanonical = ip
  · subst own
    rw [if_pos rfl, Reference.verdict, guarded]
    unfold Reference.judge
    split
    · simp [admissions]
    · split <;> simp [admissions]
  · simp [admissions, own]

/-- The guard lets through what the reference admits. -/
theorem Simulates.admissions {calls : List Call} {ip : IpAddr}
    (guarded : isAllowlisted ip = false) :
    ∀ {guard : ConnectionGuard} {now : Nat} {earlier : List Call},
      Simulates guard now earlier → (∀ call ∈ calls, now ≤ call.now) →
      calls.Pairwise (fun first second => first.now ≤ second.now) →
      (Reference.after ip (earlier ++ calls)).admitted =
        (Reference.after ip earlier).admitted ++
          Net.admissions ip calls (Net.verdicts guard calls) := by
  induction calls with
  | nil =>
      intro guard now earlier simulates late ordered
      simp [Net.admissions, Net.verdicts]
  | cons call later inductionHypothesis =>
      intro guard now earlier simulates late ordered
      rw [List.pairwise_cons] at ordered
      have stepped := simulates.step (late call (by simp))
      have tail := inductionHypothesis stepped.2 ordered.1 ordered.2
      rw [List.append_assoc, List.singleton_append, Reference.after_admitted _ _ guarded,
        List.append_assoc, ← stepped.1] at tail
      rw [tail]
      show _ = _ ++ Net.admissions ip (call :: later) (_ :: Net.verdicts _ later)
      rw [Net.admissions, Net.admissions, Net.admissions, ← List.filterMap_append]
      rfl

theorem Reference.after_within (calls : List Call) (ip : IpAddr) (start : Nat) :
    (Reference.after ip calls).within start ≤ 30 := by
  induction calls using List.reverseRecOn with
  | nil => exact Nat.zero_le _
  | append_singleton earlier call inductionHypothesis =>
      rw [Reference.after_append]
      split
      · exact Reference.judge_within _ call.now start inductionHypothesis
      · exact inductionHypothesis

/-- In every closed interval of ten seconds at most thirty connections of an
address that is not allowlisted get in, whatever bans, their ends and sweeps lie
in between. -/
theorem admissions_within_window (calls : List Call)
    (ordered : calls.Pairwise (fun first second => first.now ≤ second.now)) (ip : IpAddr)
    (guarded : isAllowlisted ip.toCanonical = false) (start : Nat) :
    ((calls.zip (verdicts .default calls)).countP fun judged =>
      judged.1.ip.toCanonical = ip.toCanonical ∧ judged.2 = false ∧
        start ≤ judged.1.now ∧ judged.1.now ≤ start + fromSecs 10) ≤ 30 := by
  have simulates : Simulates .default 0 [] := fun ip _ => Tracks.initial 0 ip
  have admitted := simulates.admissions guarded (fun _ _ => Nat.zero_le _) ordered
  have bounded := Reference.after_within calls ip.toCanonical start
  rw [List.nil_append] at admitted
  have counted : (Reference.after ip.toCanonical calls).within start =
      (admissions ip.toCanonical calls (verdicts .default calls)).countP
        fun t => start ≤ t ∧ t ≤ start + fromSecs 10 := by
    rw [Reference.within, admitted]
    rfl
  rw [counted, admissions, List.countP_filterMap] at bounded
  refine le_trans (le_of_eq ?_) bounded
  apply List.countP_congr
  intro judged member
  by_cases own : judged.1.ip.toCanonical = ip.toCanonical ∧ judged.2 = false
  · simp [own]
  · simp [own, ← and_assoc]

/-- A flood, a ban that lasts to the end of the next call, and calls of another
form of the address. -/
def floodedCalls : List Call :=
  List.replicate 31 ⟨.v4 0x0A000001#32, fromSecs 1⟩ ++
    [⟨.v6 0xFFFF0A000001#128, fromSecs 11⟩, ⟨.v6 0xFFFF0A000001#128, fromSecs 601⟩]

theorem admissions_within_window_flooded :
    ((floodedCalls.zip (verdicts .default floodedCalls)).countP fun judged =>
      judged.1.ip.toCanonical = .v4 0x0A000001#32 ∧ judged.2 = false ∧
        fromSecs 1 ≤ judged.1.now ∧ judged.1.now ≤ fromSecs 1 + fromSecs 10) ≤ 30 :=
  admissions_within_window floodedCalls (by decide) (.v4 0x0A000001#32) (by decide) (fromSecs 1)

end RustGameserver.Net
