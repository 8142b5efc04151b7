import RustGameserver.Net.Acceptor

/-!
Contract: how long a ban of the flood guard lasts.

Owns:
- that the history of a banned address does not change while the ban lasts;
- that a ban blocks every call before its end, and that the first call from its end on
  gets in.

Does not own: when an address is banned, which flood detection decides.
-/

namespace RustGameserver.Net

open RustGameserver.Foundation

namespace Reference

/-- While a ban lasts, the calls of the address leave no trace. -/
theorem after_banned {ip : IpAddr} {earlier later : List Call} {expiry : Nat}
    (banned : expiry ∈ (after ip earlier).bans)
    (lasting : ∀ call ∈ later, call.ip.toCanonical = ip → call.now < expiry) :
    after ip (earlier ++ later) = after ip earlier := by
  induction later using List.reverseRecOn with
  | nil => rw [List.append_nil]
  | append_singleton more call inductionHypothesis =>
      have same := inductionHypothesis fun other member =>
        lasting other (List.mem_append_left _ member)
      rw [← List.append_assoc, after_append, same]
      split
      · next own =>
          have active : (after ip earlier).banned call.now = true :=
            List.any_eq_true.mpr ⟨expiry, banned, decide_eq_true (lasting call (by simp) own)⟩
          rw [judge, if_pos active]
      · rfl

/-- All that flood detection adds to the history of an address is the ban. -/
theorem judge_flood {reference : Reference} {now : Nat}
    (blocked : (reference.judge now).1 = true) (unbanned : reference.banned now = false) :
    (reference.judge now).2 =
      { reference with bans := reference.bans ++ [now + fromSecs 600] } := by
  unfold judge at blocked ⊢
  rw [unbanned, if_neg Bool.false_ne_true] at blocked ⊢
  split
  · rfl
  · next few =>
      rw [if_neg few] at blocked
      contradiction

/-- What lies more than ten seconds back is not recent. -/
theorem recent_past {reference : Reference} {last now : Nat}
    (past : ∀ t ∈ reference.admitted, t ≤ last) (long : last + fromSecs 10 < now) :
    reference.recent now = 0 := by
  rw [recent, List.length_eq_zero_iff, List.filter_eq_nil_iff]
  intro t member
  have before := past t member
  rw [decide_eq_true_eq, durationSince]
  omega

end Reference

/-- What the reference of an address looks like once a call of it has been blocked by
flood detection. -/
structure Flooded (earlier : List Call) (flood : Call) (reference : Reference) : Prop where
  shape : Reference.after flood.ip.toCanonical (earlier ++ [flood]) = reference
  guarded : isAllowlisted flood.ip.toCanonical = false
  /-- No other ban is active. -/
  ended : ∀ expiry ∈ reference.bans, expiry ≤ flood.now ∨ expiry = flood.now + fromSecs 600
  banned : flood.now + fromSecs 600 ∈ reference.bans
  past : ∀ t ∈ reference.admitted, t ≤ flood.now

theorem flooded_of_blocked {earlier : List Call} {flood : Call}
    (simulates : Simulates (.after earlier) flood.now earlier)
    (blocked : ((ConnectionGuard.after earlier).shouldBlock flood.ip flood.now).1 = true)
    (unbanned : (ConnectionGuard.after earlier).bans flood.ip.toCanonical flood.now = false) :
    ∃ reference, Flooded earlier flood reference := by
  have verdict := (simulates.step (Nat.le_refl flood.now)).1
  rw [blocked, Reference.verdict] at verdict
  split at verdict
  · contradiction
  · next outside =>
      rw [Bool.not_eq_true] at outside
      have tracks := simulates _ outside
      have free := tracks.banned_eq.trans unbanned
      have judged := Reference.judge_flood verdict.symm free
      refine ⟨((Reference.after flood.ip.toCanonical earlier).judge flood.now).2, ?_, outside,
        ?_, ?_, ?_⟩
      · rw [Reference.after_append, if_pos rfl]
      · rw [judged]
        intro expiry member
        rcases List.mem_append.mp member with old | new
        · left
          have inactive := List.any_eq_false.mp free expiry old
          rw [decide_eq_true_eq] at inactive
          exact Nat.le_of_not_lt inactive
        · exact .inr (List.mem_singleton.mp new)
      · rw [judged]
        exact List.mem_append_right _ (List.mem_singleton_self _)
      · rw [judged]
        exact tracks.past

/-- What the guard says of a call after the flood, if the calls of the address in between
come before the end of its ban. -/
theorem Flooded.verdict {earlier between : List Call} {flood call : Call}
    {reference : Reference} (flooded : Flooded earlier flood reference)
    (same : call.ip.toCanonical = flood.ip.toCanonical)
    (lasting : ∀ other ∈ between, other.ip.toCanonical = flood.ip.toCanonical →
      other.now < flood.now + fromSecs 600) :
    Reference.verdict (earlier ++ flood :: between) call = (reference.judge call.now).1 := by
  have banned := flooded.banned
  rw [← flooded.shape] at banned
  have kept := Reference.after_banned banned lasting
  rw [List.append_assoc, List.singleton_append, flooded.shape] at kept
  rw [Reference.verdict, same, flooded.guarded, if_neg Bool.false_ne_true, kept]

theorem Flooded.blocks {earlier : List Call} {flood : Call} {reference : Reference} {now : Nat}
    (flooded : Flooded earlier flood reference) (early : now < flood.now + fromSecs 600) :
    (reference.judge now).1 = true := by
  have active : reference.banned now = true :=
    List.any_eq_true.mpr ⟨_, flooded.banned, decide_eq_true early⟩
  rw [Reference.judge, if_pos active]

theorem Flooded.admits {earlier : List Call} {flood : Call} {reference : Reference} {now : Nat}
    (flooded : Flooded earlier flood reference) (late : flood.now + fromSecs 600 ≤ now) :
    (reference.judge now).1 = false := by
  have longer : fromSecs 10 < fromSecs 600 := by decide
  have free : reference.banned now = false := by
    rw [Reference.banned, List.any_eq_false]
    intro expiry member
    have ended := flooded.ended expiry member
    rw [decide_eq_true_eq]
    omega
  have nothing := Reference.recent_past flooded.past (by omega : flood.now + fromSecs 10 < now)
  rw [Reference.judge, free, if_neg Bool.false_ne_true, nothing, if_neg (by decide)]

/-- A ban lasts exactly 600 seconds: if flood detection blocks a call, and not a ban
that was there before, then every later call of that address is blocked before the 600
seconds are over, and the first one after that is let in, whatever calls come in between. -/
theorem ban_lasts (earlier between : List Call) (flood call : Call)
    (ordered : (earlier ++ flood :: (between ++ [call])).Pairwise
      fun first second => first.now ≤ second.now)
    (blocked : ((ConnectionGuard.after earlier).shouldBlock flood.ip flood.now).1 = true)
    (unbanned : (ConnectionGuard.after earlier).bans flood.ip.toCanonical flood.now = false)
    (same : call.ip.toCanonical = flood.ip.toCanonical) :
    (call.now < flood.now + fromSecs 600 →
      ((ConnectionGuard.after (earlier ++ flood :: between)).shouldBlock
        call.ip call.now).1 = true) ∧
    (flood.now + fromSecs 600 ≤ call.now →
      (∀ other ∈ between, other.ip.toCanonical = flood.ip.toCanonical →
        other.now < flood.now + fromSecs 600) →
      ((ConnectionGuard.after (earlier ++ flood :: between)).shouldBlock
        call.ip call.now).1 = false) := by
  have split : earlier ++ flood :: (between ++ [call]) =
      (earlier ++ flood :: between) ++ [call] := by simp
  rw [split, List.pairwise_append] at ordered
  obtain ⟨before, _, last⟩ := ordered
  have past : ∀ other ∈ earlier ++ flood :: between, other.now ≤ call.now :=
    fun other member => last other member call (List.mem_singleton_self call)
  have agrees := ((simulates_after before past).step (Nat.le_refl call.now)).1
  rw [List.pairwise_append] at before
  have simulates := simulates_after before.1 fun other member =>
    before.2.2 other member flood (List.mem_cons_self ..)
  obtain ⟨reference, flooded⟩ := flooded_of_blocked simulates blocked unbanned
  constructor
  · intro early
    rw [agrees, flooded.verdict same fun other member _ =>
      Nat.lt_of_le_of_lt (past other (by simp [member])) early]
    exact flooded.blocks early
  · intro late lasting
    rw [agrees, flooded.verdict same lasting]
    exact flooded.admits late

/-- A flood at second 0, a sweep and a call of another form of the address while its ban
lasts, and the end of the ban. -/
theorem ban_lasts_swept :
    ((ConnectionGuard.after (List.replicate 30 ⟨.v4 0x0A000001#32, 0⟩ ++
      ⟨.v4 0x0A000001#32, 0⟩ ::
        [⟨.v4 0x0A000002#32, fromSecs 599⟩, ⟨.v6 0xFFFF0A000001#128, fromSecs 599⟩])).shouldBlock
      (.v4 0x0A000001#32) (fromSecs 600)).1 = false := by
  refine (ban_lasts (List.replicate 30 ⟨.v4 0x0A000001#32, 0⟩)
    [⟨.v4 0x0A000002#32, fromSecs 599⟩, ⟨.v6 0xFFFF0A000001#128, fromSecs 599⟩]
    ⟨.v4 0x0A000001#32, 0⟩ ⟨.v4 0x0A000001#32, fromSecs 600⟩ ?_ ?_ ?_ rfl).2 ?_ ?_
  · decide
  · decide +kernel
  · decide +kernel
  · decide
  · decide

end RustGameserver.Net
