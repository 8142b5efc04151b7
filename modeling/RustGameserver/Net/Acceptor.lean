import RustGameserver.Foundation.FiniteMap
import RustGameserver.Foundation.RetentionWindow
import RustGameserver.Net.Consts

/-!
Contract: the flood guard of `net::acceptor`.

Owns:
- addresses with their canonical form and the allowlist;
- `ConnectionGuard` with `should_block`, flood detection, the periodic sweep and
  pruning, each on the maps the guard keeps;
- the verdicts of a whole sequence of calls;
- the reference, which keeps one address's full history and never sweeps;
- the simulation between the two.

Does not own: sockets.  The accept loop calls `should_block` once for every
accepted connection, in order, so a run of it is a list of calls.
-/

namespace RustGameserver.Net

open RustGameserver.Foundation

/-! ## Addresses -/

/-- `std::net::IpAddr`, with the octets read as one big-endian number. -/
inductive IpAddr where
  | v4 (octets : BitVec 32)
  | v6 (octets : BitVec 128)
deriving DecidableEq, Repr

namespace IpAddr

/-- `Ipv4Addr::LOCALHOST`, `127.0.0.1`. -/
def localhostV4 : IpAddr := .v4 0x7F000001#32

/-- `Ipv6Addr::LOCALHOST`, `::1`. -/
def localhostV6 : IpAddr := .v6 1#128

/-- `IpAddr::to_canonical`: an IPv4-mapped address `::ffff:a.b.c.d` becomes the
IPv4 address, any other address stays itself. -/
def toCanonical : IpAddr → IpAddr
  | .v4 octets => .v4 octets
  | .v6 octets =>
      if octets.extractLsb' 32 96 = 0xFFFF#96 then
        .v4 (octets.extractLsb' 0 32)
      else
        .v6 octets

end IpAddr

def isAllowlisted (ip : IpAddr) : Bool :=
  ip = IpAddr.localhostV4 ∨ ip = IpAddr.localhostV6

/-! ## The guard -/

/-- How often expired entries are swept. -/
def sweepInterval : Nat := fromSecs 60

structure ConnectionGuard where
  timestamps : FiniteMap IpAddr (List Nat)
  bannedUntil : FiniteMap IpAddr Nat
  lastSweep : Option Nat

/-- `prune`: pop entries older than the window from the front. -/
def prune (queue : List Nat) (now : Nat) : List Nat :=
  queue.dropWhile (fun t => durationSince now t > floodWindow)

namespace ConnectionGuard

/-- `ConnectionGuard::default`. -/
def default : ConnectionGuard where
  timestamps := .empty
  bannedUntil := .empty
  lastSweep := none

def isFloodDetected (guard : ConnectionGuard) (ip : IpAddr) (now : Nat) :
    Bool × ConnectionGuard :=
  let queue := prune ((guard.timestamps.get ip).getD []) now
  if queue.length ≥ maxConnectionsPerWindow then
    (true, { guard with timestamps := guard.timestamps.insert ip queue })
  else
    (false, { guard with timestamps := guard.timestamps.insert ip (queue ++ [now]) })

def sweepIfDue (guard : ConnectionGuard) (now : Nat) : ConnectionGuard :=
  if guard.lastSweep.any (fun last => durationSince now last < sweepInterval) then
    guard
  else
    { timestamps := guard.timestamps.retain fun _ queue =>
        let queue := prune queue now
        if queue.isEmpty then none else some queue
      bannedUntil := guard.bannedUntil.retain fun _ expiry =>
        if now < expiry then some expiry else none
      lastSweep := some now }

/-- The part of `should_block` behind the ban lookup. -/
def screen (guard : ConnectionGuard) (ip : IpAddr) (now : Nat) : Bool × ConnectionGuard :=
  let (flooded, guard) := guard.isFloodDetected ip now
  let guard := guard.sweepIfDue now
  if flooded then
    (true, { guard with bannedUntil := guard.bannedUntil.insert ip (now + banDuration) })
  else
    (false, guard)

def shouldBlock (guard : ConnectionGuard) (ip : IpAddr) (now : Nat) :
    Bool × ConnectionGuard :=
  let ip := ip.toCanonical
  if isAllowlisted ip then
    (false, guard)
  else
    match guard.bannedUntil.get ip with
    | some expiry =>
        if now < expiry then
          (true, guard)
        else
          { guard with bannedUntil := guard.bannedUntil.remove ip }.screen ip now
    | none => guard.screen ip now

end ConnectionGuard

/-- The address is under a ban, so that `should_block` looks no further. -/
def ConnectionGuard.bans (guard : ConnectionGuard) (ip : IpAddr) (now : Nat) : Bool :=
  (guard.bannedUntil.get ip).any fun expiry => now < expiry

/-- One call `should_block(ip, now)`. -/
structure Call where
  ip : IpAddr
  now : Nat
deriving DecidableEq, Repr

/-- The verdicts of a sequence of calls on one guard. -/
def verdicts (guard : ConnectionGuard) : List Call → List Bool
  | [] => []
  | call :: later =>
      let (blocked, guard) := guard.shouldBlock call.ip call.now
      blocked :: verdicts guard later

/-! ## The reference -/

/-- Everything one address has ever been admitted or banned for: the times of
its admitted connections and the ends of its bans. -/
structure Reference where
  admitted : List Nat
  bans : List Nat
deriving DecidableEq, Repr

namespace Reference

def start : Reference := ⟨[], []⟩

def banned (reference : Reference) (now : Nat) : Bool :=
  reference.bans.any (fun expiry => now < expiry)

/-- Connections admitted in the last ten seconds, both ends included. -/
def recent (reference : Reference) (now : Nat) : Nat :=
  (reference.admitted.filter (fun t => durationSince now t ≤ fromSecs 10)).length

/-- Block while a ban lasts; block and ban for 600 s after 30 recent admissions;
admit otherwise. -/
def judge (reference : Reference) (now : Nat) : Bool × Reference :=
  if reference.banned now then
    (true, reference)
  else if reference.recent now ≥ 30 then
    (true, { reference with bans := reference.bans ++ [now + fromSecs 600] })
  else
    (false, { reference with admitted := reference.admitted ++ [now] })

/-- The history of one canonical address after some calls, of which it looks at
the address's own calls only. -/
def after (ip : IpAddr) (calls : List Call) : Reference :=
  (calls.filter (fun call => call.ip.toCanonical = ip)).foldl
    (fun reference call => (reference.judge call.now).2) start

/-- The verdict of the reference on one call. -/
def verdict (earlier : List Call) (call : Call) : Bool :=
  if isAllowlisted call.ip.toCanonical then
    false
  else
    ((after call.ip.toCanonical earlier).judge call.now).1

theorem after_append (ip : IpAddr) (calls : List Call) (call : Call) :
    after ip (calls ++ [call]) =
      if call.ip.toCanonical = ip then ((after ip calls).judge call.now).2
      else after ip calls := by
  unfold after
  by_cases own : call.ip.toCanonical = ip <;> simp [List.filter_append, own]

end Reference

/-! ## The simulation -/

/-- Connections older than the flood window are stale. -/
def windowStaleness : Staleness Nat where
  stale := fun now t => durationSince now t > floodWindow
  later := by
    intro now soon entry ordered stale
    simp only [durationSince, gt_iff_lt, decide_eq_true_eq] at *
    omega
  earlier := by
    intro now entry before ordered stale
    simp only [durationSince, gt_iff_lt, decide_eq_true_eq] at *
    omega

/-- Bans are stale from the moment they end. -/
def banStaleness : Staleness Nat where
  stale := fun now expiry => expiry ≤ now
  later := by
    intro now soon entry ordered stale
    simp only [decide_eq_true_eq] at *
    omega
  earlier := by
    intro now entry before ordered stale
    simp only [decide_eq_true_eq] at *
    omega

/-- What the guard keeps of one address's history: its queue and its ban have
forgotten stale entries only. -/
structure Tracks (guard : ConnectionGuard) (now : Nat) (ip : IpAddr)
    (reference : Reference) : Prop where
  queue : windowStaleness.Forgets now reference.admitted ((guard.timestamps.get ip).getD [])
  ban : banStaleness.Forgets now reference.bans (guard.bannedUntil.get ip).toList
  sorted : reference.admitted.Pairwise (· ≤ ·)
  past : ∀ t ∈ reference.admitted, t ≤ now

namespace Tracks

variable {guard : ConnectionGuard} {now soon : Nat} {ip other : IpAddr}
  {reference : Reference}

theorem initial (now : Nat) (ip : IpAddr) :
    Tracks .default now ip .start where
  queue := by
    simp only [ConnectionGuard.default, FiniteMap.get_empty]
    exact Staleness.Forgets.refl _ _
  ban := by
    simp only [ConnectionGuard.default, FiniteMap.get_empty]
    exact Staleness.Forgets.refl _ _
  sorted := List.Pairwise.nil
  past := by simp [Reference.start]

theorem wait (tracks : Tracks guard now ip reference) (ordered : now ≤ soon) :
    Tracks guard soon ip reference where
  queue := tracks.queue.wait ordered
  ban := tracks.ban.wait ordered
  sorted := tracks.sorted
  past := fun t member => (tracks.past t member).trans ordered

/-- Only an address's own entries matter to it. -/
theorem of_same_entries (tracks : Tracks guard now ip reference) {changed : ConnectionGuard}
    (timestamps : changed.timestamps.get ip = guard.timestamps.get ip)
    (bannedUntil : changed.bannedUntil.get ip = guard.bannedUntil.get ip) :
    Tracks changed now ip reference where
  queue := by rw [timestamps]; exact tracks.queue
  ban := by rw [bannedUntil]; exact tracks.ban
  sorted := tracks.sorted
  past := tracks.past

/-- The sweep forgets stale entries only, of every address. -/
theorem sweepIfDue (tracks : Tracks guard now ip reference) :
    Tracks (guard.sweepIfDue now) now ip reference := by
  unfold ConnectionGuard.sweepIfDue
  split
  · exact tracks
  · refine ⟨?_, ?_, tracks.sorted, tracks.past⟩
    · have pruned : ((guard.timestamps.retain fun _ queue =>
            if (prune queue now).isEmpty then none else some (prune queue now)).get ip).getD [] =
          windowStaleness.prune now ((guard.timestamps.get ip).getD []) := by
        rw [FiniteMap.get_retain]
        cases guard.timestamps.get ip with
        | none => rfl
        | some queue =>
            simp only [Option.bind_some, Option.getD_some]
            split
            · next nothing => exact (List.isEmpty_iff.mp nothing).symm
            · rfl
      simp only [pruned]
      exact tracks.queue.prune
    · have ban := tracks.ban
      simp only [FiniteMap.get_retain]
      cases held : guard.bannedUntil.get ip with
      | none =>
          rw [held] at ban
          exact ban
      | some expiry =>
          rw [held] at ban
          simp only [Option.bind_some]
          split
          · exact ban
          · next past =>
              refine ban.clear ?_
              simp only [Staleness.fresh, banStaleness, Option.toList_some]
              simp [Nat.le_of_not_lt past]

/-- A ban that has ended may be taken off the map. -/
theorem removeBan (tracks : Tracks guard now ip reference) {expiry : Nat}
    (held : guard.bannedUntil.get ip = some expiry) (past : ¬ now < expiry) :
    Tracks { guard with bannedUntil := guard.bannedUntil.remove ip } now ip reference := by
  refine ⟨tracks.queue, ?_, tracks.sorted, tracks.past⟩
  have ban := tracks.ban
  rw [held] at ban
  simp only [FiniteMap.get_remove, if_true]
  refine ban.clear ?_
  simp only [Staleness.fresh, banStaleness, Option.toList_some]
  simp [Nat.le_of_not_lt past]

/-- The guard's ban lookup finds out whether the address is banned. -/
theorem banned_eq (tracks : Tracks guard now ip reference) :
    reference.banned now = (guard.bannedUntil.get ip).any (fun expiry => now < expiry) := by
  have active : ∀ log : List Nat,
      log.any (fun expiry => decide (now < expiry)) = !(banStaleness.fresh now log).isEmpty := by
    intro log
    induction log with
    | nil => rfl
    | cons expiry rest inductionHypothesis =>
        by_cases past : expiry ≤ now
        · simpa [banStaleness, Staleness.fresh, past, Nat.not_lt.mpr past]
            using inductionHypothesis
        · simp [banStaleness, Staleness.fresh, past, Nat.lt_of_not_le past]
  unfold Reference.banned
  rw [active, tracks.ban.fresh_eq, ← active]
  cases guard.bannedUntil.get ip <;> simp

/-- The pruned queue holds exactly the recent admissions. -/
theorem recent_eq (tracks : Tracks guard now ip reference) :
    (prune ((guard.timestamps.get ip).getD []) now).length = reference.recent now := by
  have pruned := tracks.queue.prune_eq_fresh tracks.sorted
  have counted : reference.recent now =
      (windowStaleness.fresh now reference.admitted).length := by
    unfold Reference.recent Staleness.fresh windowStaleness floodWindow
    congr 2
    funext t
    by_cases young : durationSince now t ≤ fromSecs 10
    · simp [young]
    · simp [young, Nat.lt_of_not_le young]
  rw [counted, ← pruned]
  rfl

end Tracks

/-- The unswept, unpruned history of every address that is not allowlisted is
tracked. -/
def Simulates (guard : ConnectionGuard) (now : Nat) (earlier : List Call) : Prop :=
  ∀ ip, isAllowlisted ip = false → Tracks guard now ip (Reference.after ip earlier)

/-- Flood detection counts what the reference counts, and records what the
reference records; nobody else's queue is touched. -/
theorem Tracks.isFloodDetected {guard : ConnectionGuard} {now : Nat} {ip : IpAddr}
    {reference : Reference} (tracks : Tracks guard now ip reference) :
    ((guard.isFloodDetected ip now).1 = true ∧ reference.recent now ≥ 30 ∧
      Tracks (guard.isFloodDetected ip now).2 now ip reference) ∨
    ((guard.isFloodDetected ip now).1 = false ∧ ¬ reference.recent now ≥ 30 ∧
      Tracks (guard.isFloodDetected ip now).2 now ip
        { reference with admitted := reference.admitted ++ [now] }) := by
  have counted := tracks.recent_eq
  have pruned : windowStaleness.Forgets now reference.admitted
      (Net.prune ((guard.timestamps.get ip).getD []) now) := tracks.queue.prune
  unfold ConnectionGuard.isFloodDetected
  simp only [counted, maxConnectionsPerWindow]
  split
  · next flooded =>
      refine Or.inl ⟨rfl, flooded, ?_, tracks.ban, tracks.sorted, tracks.past⟩
      simpa only [FiniteMap.get_insert, if_true, Option.getD_some] using pruned
  · next calm =>
      refine Or.inr ⟨rfl, calm, ?_, tracks.ban, ?_, ?_⟩
      · simpa only [FiniteMap.get_insert, if_true, Option.getD_some] using pruned.append now
      · rw [List.pairwise_append]
        refine ⟨tracks.sorted, List.pairwise_singleton .., fun t member other last => ?_⟩
        rw [List.mem_singleton.mp last]
        exact tracks.past t member
      · intro t member
        rcases List.mem_append.mp member with old | last
        · exact tracks.past t old
        · exact (List.mem_singleton.mp last).le

theorem isFloodDetected_other (guard : ConnectionGuard) (now : Nat) {ip other : IpAddr}
    (different : other ≠ ip) :
    (guard.isFloodDetected ip now).2.timestamps.get other = guard.timestamps.get other ∧
      (guard.isFloodDetected ip now).2.bannedUntil = guard.bannedUntil := by
  unfold ConnectionGuard.isFloodDetected
  simp only
  split <;> exact ⟨by simp [FiniteMap.get_insert, different], rfl⟩

/-- Behind the ban lookup the guard does what the reference does for an address
that is not banned. -/
theorem Tracks.screen {guard : ConnectionGuard} {now : Nat} {ip : IpAddr}
    {reference : Reference} (tracks : Tracks guard now ip reference)
    (free : reference.banned now = false) (unbanned : guard.bannedUntil.get ip = none) :
    (guard.screen ip now).1 = (reference.judge now).1 ∧
      Tracks (guard.screen ip now).2 now ip (reference.judge now).2 := by
  unfold ConnectionGuard.screen Reference.judge
  simp only [free, Bool.false_eq_true, if_false]
  rcases tracks.isFloodDetected with ⟨flooded, many, after⟩ | ⟨calm, few, after⟩
  · rw [if_pos many]
    simp only [flooded, if_true, true_and]
    have swept := after.sweepIfDue
    refine ⟨swept.queue, ?_, swept.sorted, swept.past⟩
    have cleared : banStaleness.Forgets now reference.bans [] := by
      have ban := tracks.ban
      rwa [unbanned] at ban
    simpa [FiniteMap.get_insert, banDuration, fromSecs] using
      cleared.append (now + fromSecs 600)
  · rw [if_neg few]
    simp only [calm, Bool.false_eq_true, if_false, true_and]
    exact after.sweepIfDue

theorem Tracks.screen_other {guard : ConnectionGuard} {now : Nat} {ip other : IpAddr}
    {reference : Reference} (tracks : Tracks guard now other reference)
    (different : other ≠ ip) : Tracks (guard.screen ip now).2 now other reference := by
  have untouched := isFloodDetected_other guard now different
  have after : Tracks (guard.isFloodDetected ip now).2 now other reference :=
    tracks.of_same_entries untouched.1 (by rw [untouched.2])
  unfold ConnectionGuard.screen
  simp only
  split
  · exact after.sweepIfDue.of_same_entries rfl (by simp [FiniteMap.get_insert, different])
  · exact after.sweepIfDue

/-- An allowlisted call is left out of the reference of every address. -/
theorem Simulates.exempt {guard : ConnectionGuard} {earlier : List Call} {call : Call}
    (simulates : Simulates guard call.now earlier)
    (allowed : isAllowlisted call.ip.toCanonical = true) :
    Simulates guard call.now (earlier ++ [call]) := by
  intro ip outside
  have different : call.ip.toCanonical ≠ ip := by
    rintro rfl
    rw [allowed] at outside
    contradiction
  rw [Reference.after_append, if_neg different]
  exact simulates ip outside

/-- The caller is tracked through `judge`, everyone else by their unchanged entries. -/
theorem Simulates.called {guard : ConnectionGuard} {earlier : List Call} {call : Call}
    (mine : Tracks guard call.now call.ip.toCanonical
      ((Reference.after call.ip.toCanonical earlier).judge call.now).2)
    (theirs : ∀ ip, isAllowlisted ip = false → ip ≠ call.ip.toCanonical →
      Tracks guard call.now ip (Reference.after ip earlier)) :
    Simulates guard call.now (earlier ++ [call]) := by
  intro ip outside
  rw [Reference.after_append]
  by_cases own : call.ip.toCanonical = ip
  · subst own
    rw [if_pos rfl]
    exact mine
  · rw [if_neg own]
    exact theirs ip outside (Ne.symm own)

/-- One call: the guard's verdict is the reference's, and every address stays
tracked, the caller's and all others'. -/
theorem Simulates.step {guard : ConnectionGuard} {now : Nat} {earlier : List Call}
    (simulates : Simulates guard now earlier) {call : Call} (ordered : now ≤ call.now) :
    (guard.shouldBlock call.ip call.now).1 = Reference.verdict earlier call ∧
      Simulates (guard.shouldBlock call.ip call.now).2 call.now (earlier ++ [call]) := by
  have waited : Simulates guard call.now earlier :=
    fun ip outside => (simulates ip outside).wait ordered
  unfold ConnectionGuard.shouldBlock Reference.verdict
  simp only
  by_cases allowed : isAllowlisted call.ip.toCanonical = true
  · rw [if_pos allowed, if_pos allowed]
    exact ⟨rfl, waited.exempt allowed⟩
  · rw [if_neg allowed, if_neg allowed]
    have own := waited call.ip.toCanonical (by simpa using allowed)
    have lookup := own.banned_eq
    cases held : guard.bannedUntil.get call.ip.toCanonical with
    | none =>
        rw [held, Option.any_none] at lookup
        have screened := own.screen lookup held
        exact ⟨screened.1, .called screened.2
          fun ip outside different => (waited ip outside).screen_other different⟩
    | some expiry =>
        rw [held, Option.any_some] at lookup
        simp only
        by_cases active : call.now < expiry
        · rw [if_pos active]
          rw [decide_eq_true active] at lookup
          have judged : (Reference.after call.ip.toCanonical earlier).judge call.now =
              (true, Reference.after call.ip.toCanonical earlier) := by
            unfold Reference.judge
            rw [if_pos lookup]
          refine ⟨by rw [judged], .called ?_ fun ip outside _ => waited ip outside⟩
          rw [judged]
          exact own
        · rw [if_neg active]
          rw [decide_eq_false active] at lookup
          have lifted := own.removeBan held active
          have screened := lifted.screen lookup (by simp [FiniteMap.get_remove])
          refine ⟨screened.1, .called screened.2 fun ip outside different => ?_⟩
          have lifted : Tracks
              { guard with bannedUntil := guard.bannedUntil.remove call.ip.toCanonical }
              call.now ip (Reference.after ip earlier) :=
            (waited ip outside).of_same_entries rfl
              (by simp [FiniteMap.get_remove, different])
          exact lifted.screen_other different

/-- The guard after these calls. -/
def ConnectionGuard.after (calls : List Call) : ConnectionGuard :=
  calls.foldl (fun guard call => (guard.shouldBlock call.ip call.now).2) .default

theorem ConnectionGuard.after_snoc (calls : List Call) (call : Call) :
    ConnectionGuard.after (calls ++ [call]) =
      ((ConnectionGuard.after calls).shouldBlock call.ip call.now).2 := by
  simp [ConnectionGuard.after]

/-- The invariant rule of the guard: what holds of a fresh guard, and is kept by a call
and by the passing of time, holds after calls in time order. -/
theorem ConnectionGuard.after_invariant (Holds : ConnectionGuard → Nat → List Call → Prop)
    (initially : ∀ now, Holds .default now [])
    (called : ∀ guard earlier call, Holds guard call.now earlier →
      Holds (guard.shouldBlock call.ip call.now).2 call.now (earlier ++ [call]))
    (waited : ∀ guard calls now soon, now ≤ soon → Holds guard now calls →
      Holds guard soon calls)
    {calls : List Call} {now : Nat}
    (ordered : calls.Pairwise (fun first second => first.now ≤ second.now))
    (past : ∀ call ∈ calls, call.now ≤ now) : Holds (.after calls) now calls := by
  induction calls using List.reverseRecOn generalizing now with
  | nil => exact initially now
  | append_singleton earlier call inductionHypothesis =>
      rw [List.pairwise_append] at ordered
      have before := inductionHypothesis ordered.1 fun other member =>
        ordered.2.2 other member call (List.mem_singleton_self call)
      rw [ConnectionGuard.after_snoc]
      exact waited _ _ _ _ (past call (by simp)) (called _ earlier call before)

/-- After calls in time order the guard simulates their reference. -/
theorem simulates_after {calls : List Call} {now : Nat}
    (ordered : calls.Pairwise (fun first second => first.now ≤ second.now))
    (past : ∀ call ∈ calls, call.now ≤ now) : Simulates (.after calls) now calls := by
  apply ConnectionGuard.after_invariant Simulates _ _ _ ordered past
  · exact fun now ip _ => Tracks.initial now ip
  · exact fun guard earlier call before => (before.step (Nat.le_refl call.now)).2
  · exact fun guard calls now soon later before ip outside => (before ip outside).wait later

theorem Simulates.verdicts {calls : List Call} :
    ∀ {guard : ConnectionGuard} {now : Nat} {earlier : List Call},
      Simulates guard now earlier → (∀ call ∈ calls, now ≤ call.now) →
      calls.Pairwise (fun first second => first.now ≤ second.now) →
      ∀ (index : Nat) (inside : index < calls.length),
        (verdicts guard calls)[index]? =
          some (Reference.verdict (earlier ++ calls.take index) calls[index]) := by
  induction calls with
  | nil =>
      intro guard now earlier simulates late ordered index inside
      simp at inside
  | cons call later inductionHypothesis =>
      intro guard now earlier simulates late ordered index inside
      rw [List.pairwise_cons] at ordered
      have stepped := simulates.step (late call (by simp))
      cases index with
      | zero => simp [Net.verdicts, stepped.1]
      | succ index =>
          have tail := inductionHypothesis stepped.2 ordered.1 ordered.2 index
            (by simpa using inside)
          simpa [Net.verdicts] using tail

/-- For calls in time order, over any mix of addresses, the verdict of every
call on a fresh guard is the verdict of the reference, which looks at the
earlier calls of the same canonical address only. -/
theorem shouldBlock_refines_reference (calls : List Call)
    (ordered : calls.Pairwise (fun first second => first.now ≤ second.now))
    (index : Nat) (inside : index < calls.length) :
    (verdicts .default calls)[index]? =
      some (Reference.verdict (calls.take index) calls[index]) := by
  have start : Simulates .default 0 [] := fun ip _ => Tracks.initial 0 ip
  simpa using start.verdicts (fun _ _ => Nat.zero_le _) ordered index inside

/-- Thirty connections of one address, interleaved with others, and the call
that bans it. -/
def sampleCalls : List Call :=
  List.replicate 30 ⟨.v4 0x0A000001#32, 0⟩ ++
    [⟨.v4 0x0A000002#32, fromSecs 1⟩, ⟨.v6 0xFFFF0A000001#128, fromSecs 10⟩]

theorem shouldBlock_refines_reference_sample :
    (verdicts .default sampleCalls)[31]? =
      some (Reference.verdict (sampleCalls.take 31) sampleCalls[31]) :=
  shouldBlock_refines_reference sampleCalls (by decide) 31 (by decide)

end RustGameserver.Net
