import RustGameserver.Net.AdmissionBound

/-!
Contract: what the flood guard keeps, and how much of it there can be.

Owns:
- the invariant of the queues, the bans and the last sweep;
- that a guard which has just looked at a queue has swept less than 60 seconds ago;
- that every address the guard keeps has had a connection admitted lately, and how
  many addresses there are for it.

Does not own: the verdicts.
-/

namespace RustGameserver.Net

open RustGameserver.Foundation

/-! ## Queues -/

/-- The queue of a tracked address, at some time after some sweep. -/
structure Tidy (swept : Option Nat) (now : Nat) (queue : List Nat) : Prop where
  nonempty : queue ≠ []
  short : queue.length ≤ maxConnectionsPerWindow
  sorted : queue.Pairwise (· ≤ ·)
  past : ∀ t ∈ queue, t ≤ now
  /-- The newest entry was fresh at the last sweep, or was added after it. -/
  young : ∀ last, swept = some last → ∀ newest ∈ queue.getLast?, last ≤ newest + floodWindow

variable {swept : Option Nat} {now soon : Nat} {queue : List Nat}

theorem Tidy.wait (tidy : Tidy swept now queue) (ordered : now ≤ soon) :
    Tidy swept soon queue where
  nonempty := tidy.nonempty
  short := tidy.short
  sorted := tidy.sorted
  past := fun t member => Nat.le_trans (tidy.past t member) ordered
  young := tidy.young

/-- Pruning keeps a queue tidy as long as something is left of it. -/
theorem Tidy.prune (tidy : Tidy swept now queue) (left : Net.prune queue now ≠ []) :
    Tidy swept now (Net.prune queue now) where
  nonempty := left
  short := Nat.le_trans (List.dropWhile_sublist _).length_le tidy.short
  sorted := tidy.sorted.sublist (List.dropWhile_sublist _)
  past := fun t member => tidy.past t ((List.dropWhile_sublist _).subset member)
  young := by
    intro last held newest member
    apply tidy.young last held newest
    rw [Option.mem_def, ← List.singleton_suffix_iff_getLast?_eq_some] at member ⊢
    exact member.trans (List.dropWhile_suffix _)

/-- Whatever is left after pruning is fresh. -/
theorem Tidy.fresh (tidy : Tidy swept now queue) :
    ∀ t ∈ Net.prune queue now, now ≤ t + floodWindow := by
  intro t member
  have pruned : windowStaleness.prune now queue = windowStaleness.fresh now queue :=
    Staleness.prune_eq_fresh tidy.sorted
  have kept : t ∈ windowStaleness.fresh now queue := pruned ▸ member
  simp only [Staleness.fresh, windowStaleness, List.mem_filter, durationSince, gt_iff_lt,
    Bool.not_eq_true', decide_eq_false_iff_not] at kept
  omega

/-- A connection is put behind the ones before it. -/
theorem tidy_append (short : queue.length < maxConnectionsPerWindow)
    (sorted : queue.Pairwise (· ≤ ·)) (past : ∀ t ∈ queue, t ≤ now)
    (before : ∀ last, swept = some last → last ≤ now) : Tidy swept now (queue ++ [now]) where
  nonempty := by simp
  short := by
    rw [List.length_append, List.length_singleton]
    omega
  sorted := by
    rw [List.pairwise_append]
    refine ⟨sorted, List.pairwise_singleton .., fun t member other last => ?_⟩
    rw [List.mem_singleton.mp last]
    exact past t member
  past := by
    intro t member
    rw [List.mem_append, List.mem_singleton] at member
    rcases member with old | rfl
    · exact past t old
    · exact Nat.le_refl t
  young := by
    intro last held newest member
    rw [List.getLast?_concat, Option.mem_def, Option.some.injEq] at member
    have ordered := before last held
    omega

/-! ## The guard -/

/-- What the guard keeps at some time after its last call. -/
structure Kept (guard : ConnectionGuard) (now : Nat) : Prop where
  queues : ∀ ip queue, guard.timestamps.get ip = some queue →
    isAllowlisted ip = false ∧ Tidy guard.lastSweep now queue
  bans : ∀ ip expiry, guard.bannedUntil.get ip = some expiry →
    isAllowlisted ip = false ∧ ∀ last, guard.lastSweep = some last → last < expiry
  swept : ∀ last, guard.lastSweep = some last → last ≤ now

namespace Kept

variable {guard : ConnectionGuard} {ip : IpAddr}

theorem initial (now : Nat) : Kept .default now where
  queues := by simp [ConnectionGuard.default]
  bans := by simp [ConnectionGuard.default]
  swept := by simp [ConnectionGuard.default]

theorem wait (kept : Kept guard now) (ordered : now ≤ soon) : Kept guard soon where
  queues := fun ip queue held =>
    ⟨(kept.queues ip queue held).1, (kept.queues ip queue held).2.wait ordered⟩
  bans := kept.bans
  swept := fun last held => Nat.le_trans (kept.swept last held) ordered

/-- A queue is replaced by one that is tidy. -/
theorem insert (kept : Kept guard now) (guarded : isAllowlisted ip = false)
    (tidy : Tidy guard.lastSweep now queue) :
    Kept { guard with timestamps := guard.timestamps.insert ip queue } now where
  queues := by
    intro other found held
    rw [FiniteMap.get_insert] at held
    split at held
    · next same =>
        rw [Option.some.injEq] at held
        rw [same, ← held]
        exact ⟨guarded, tidy⟩
    · exact kept.queues other found held
  bans := kept.bans
  swept := kept.swept

theorem isFloodDetected (kept : Kept guard now) (guarded : isAllowlisted ip = false) :
    Kept (guard.isFloodDetected ip now).2 now := by
  have pruned : (prune ((guard.timestamps.get ip).getD []) now).Pairwise (· ≤ ·) ∧
      (∀ t ∈ prune ((guard.timestamps.get ip).getD []) now, t ≤ now) ∧
      (prune ((guard.timestamps.get ip).getD []) now ≠ [] →
        Tidy guard.lastSweep now (prune ((guard.timestamps.get ip).getD []) now)) := by
    cases held : guard.timestamps.get ip with
    | none => exact ⟨List.Pairwise.nil, by simp [prune], fun left => absurd rfl left⟩
    | some queue =>
        have tidy := (kept.queues ip queue held).2
        exact ⟨tidy.sorted.sublist (List.dropWhile_sublist _),
          fun t member => tidy.past t ((List.dropWhile_sublist _).subset member), tidy.prune⟩
  unfold ConnectionGuard.isFloodDetected
  simp only
  split
  · next flooded =>
      apply kept.insert guarded
      apply pruned.2.2
      intro nothing
      rw [nothing] at flooded
      contradiction
  · next calm =>
      exact kept.insert guarded
        (tidy_append (Nat.lt_of_not_le calm) pruned.1 pruned.2.1 kept.swept)

theorem sweepIfDue (kept : Kept guard now) :
    Kept (guard.sweepIfDue now) now ∧
      ∃ last, (guard.sweepIfDue now).lastSweep = some last ∧ now < last + sweepInterval := by
  unfold ConnectionGuard.sweepIfDue
  split
  · next early =>
      refine ⟨kept, ?_⟩
      cases held : guard.lastSweep with
      | none =>
          rw [held] at early
          contradiction
      | some last =>
          rw [held, Option.any_some, decide_eq_true_eq, durationSince] at early
          exact ⟨last, rfl, by omega⟩
  · have positive : 0 < sweepInterval := by decide
    refine ⟨⟨?_, ?_, ?_⟩, now, rfl, by omega⟩
    · intro ip queue held
      rw [FiniteMap.get_retain, Option.bind_eq_some_iff] at held
      obtain ⟨old, before, retained⟩ := held
      obtain ⟨guarded, tidy⟩ := kept.queues ip old before
      simp only [Option.ite_none_left_eq_some, Option.some.injEq] at retained
      obtain ⟨left, rfl⟩ := retained
      have nonempty : Net.prune old now ≠ [] := by simpa using left
      have pruned := tidy.prune nonempty
      refine ⟨guarded, pruned.nonempty, pruned.short, pruned.sorted, pruned.past, ?_⟩
      intro last same newest member
      rw [Option.some.injEq] at same
      rw [← same]
      exact tidy.fresh newest (List.mem_of_getLast? member)
    · intro ip expiry held
      rw [FiniteMap.get_retain, Option.bind_eq_some_iff] at held
      obtain ⟨old, before, retained⟩ := held
      simp only [Option.ite_none_right_eq_some, Option.some.injEq] at retained
      obtain ⟨active, rfl⟩ := retained
      refine ⟨(kept.bans ip old before).1, fun last same => ?_⟩
      rw [Option.some.injEq] at same
      omega
    · intro last same
      rw [Option.some.injEq] at same
      omega

theorem ban (kept : Kept guard now) (guarded : isAllowlisted ip = false) {expiry : Nat}
    (late : now < expiry) :
    Kept { guard with bannedUntil := guard.bannedUntil.insert ip expiry } now where
  queues := kept.queues
  bans := by
    intro other found held
    rw [FiniteMap.get_insert] at held
    split at held
    · next same =>
        rw [Option.some.injEq] at held
        rw [same, ← held]
        refine ⟨guarded, fun last swept => ?_⟩
        have before := kept.swept last swept
        omega
    · exact kept.bans other found held
  swept := kept.swept

theorem removeBan (kept : Kept guard now) (ip : IpAddr) :
    Kept { guard with bannedUntil := guard.bannedUntil.remove ip } now where
  queues := kept.queues
  bans := by
    intro other found held
    rw [FiniteMap.get_remove, Option.ite_none_left_eq_some] at held
    exact kept.bans other found held.2
  swept := kept.swept

/-- Behind the ban lookup a sweep is never far back. -/
theorem screen (kept : Kept guard now) (guarded : isAllowlisted ip = false) :
    Kept (guard.screen ip now).2 now ∧
      ∃ last, (guard.screen ip now).2.lastSweep = some last ∧ now < last + sweepInterval := by
  have positive : 0 < banDuration := by decide
  obtain ⟨swept, recent⟩ := (kept.isFloodDetected guarded).sweepIfDue
  unfold ConnectionGuard.screen
  simp only
  split
  · exact ⟨swept.ban guarded (by omega), recent⟩
  · exact ⟨swept, recent⟩

/-- One call. -/
theorem shouldBlock (kept : Kept guard now) (caller : IpAddr) :
    Kept (guard.shouldBlock caller now).2 now ∧
      (isAllowlisted caller.toCanonical = false → guard.bans caller.toCanonical now = false →
        ∃ last, (guard.shouldBlock caller now).2.lastSweep = some last ∧
          now < last + sweepInterval) := by
  unfold ConnectionGuard.shouldBlock ConnectionGuard.bans
  simp only
  by_cases allowed : isAllowlisted caller.toCanonical = true
  · rw [if_pos allowed]
    refine ⟨kept, fun guarded => ?_⟩
    rw [allowed] at guarded
    contradiction
  · rw [if_neg allowed]
    rw [Bool.not_eq_true] at allowed
    cases held : guard.bannedUntil.get caller.toCanonical with
    | none =>
        obtain ⟨after, recent⟩ := kept.screen allowed
        exact ⟨after, fun _ _ => recent⟩
    | some expiry =>
        simp only
        split
        · next active =>
            refine ⟨kept, fun _ unbanned => ?_⟩
            rw [Option.any_some, decide_eq_true active] at unbanned
            contradiction
        · obtain ⟨after, recent⟩ := (kept.removeBan caller.toCanonical).screen allowed
          exact ⟨after, fun _ _ => recent⟩

end Kept

theorem kept_after {calls : List Call}
    (ordered : calls.Pairwise fun first second => first.now ≤ second.now)
    (past : ∀ call ∈ calls, call.now ≤ now) : Kept (.after calls) now := by
  apply ConnectionGuard.after_invariant (fun guard now _ => Kept guard now) _ _ _ ordered past
  · exact .initial
  · exact fun guard earlier call before => (before.shouldBlock call.ip).1
  · exact fun guard calls now soon later before => before.wait later

/-! ## Growth -/

namespace Reference

/-- Who is banned was admitted shortly before. -/
def Earned (reference : Reference) : Prop :=
  ∀ expiry ∈ reference.bans, ∃ t ∈ reference.admitted, expiry ≤ t + fromSecs 610

theorem Earned.judge {reference : Reference} (earned : reference.Earned) (now : Nat) :
    (reference.judge now).2.Earned := by
  unfold Reference.judge
  split
  · exact earned
  · split
    · next many =>
        intro expiry member
        rw [List.mem_append, List.mem_singleton] at member
        rcases member with old | rfl
        · exact earned expiry old
        · -- thirty recent admissions are at least one
          have present : reference.admitted.filter
              (fun t => durationSince now t ≤ fromSecs 10) ≠ [] := by
            intro nothing
            rw [recent, nothing] at many
            contradiction
          obtain ⟨t, member⟩ := List.exists_mem_of_ne_nil _ present
          rw [List.mem_filter, decide_eq_true_eq, durationSince] at member
          refine ⟨t, member.1, ?_⟩
          have total : fromSecs 610 = fromSecs 10 + fromSecs 600 := by decide
          omega
    · intro expiry member
      obtain ⟨t, admitted, near⟩ := earned expiry member
      exact ⟨t, List.mem_append_left _ admitted, near⟩

theorem after_earned (ip : IpAddr) (calls : List Call) : (after ip calls).Earned := by
  induction calls using List.reverseRecOn with
  | nil => simp [after, Earned, start]
  | append_singleton earlier call inductionHypothesis =>
      rw [after_append]
      split
      · exact inductionHypothesis.judge call.now
      · exact inductionHypothesis

end Reference

/-- What the guard keeps of an address: connections that it let in, and bans that such a
connection lies shortly before. -/
theorem entries_admitted {calls : List Call} {ip : IpAddr}
    (ordered : calls.Pairwise fun first second => first.now ≤ second.now)
    (past : ∀ call ∈ calls, call.now ≤ now) (guarded : isAllowlisted ip = false) :
    (∀ queue, (ConnectionGuard.after calls).timestamps.get ip = some queue → ∀ t ∈ queue,
      t ∈ admissions ip calls (verdicts .default calls)) ∧
    ∀ expiry, (ConnectionGuard.after calls).bannedUntil.get ip = some expiry →
      ∃ t ∈ admissions ip calls (verdicts .default calls), expiry ≤ t + fromSecs 610 := by
  have initial : Simulates .default 0 [] := fun ip _ => Tracks.initial 0 ip
  have admitted := initial.admissions guarded (fun _ _ => Nat.zero_le _) ordered
  have tracks := simulates_after ordered past ip guarded
  have nothing : (Reference.after ip []).admitted = [] := rfl
  rw [nothing, List.nil_append, List.nil_append] at admitted
  rw [← admitted]
  constructor
  · intro queue held t member
    obtain ⟨forgotten, whole, _⟩ := tracks.queue
    rw [whole, held]
    exact List.mem_append_right _ member
  · intro expiry held
    obtain ⟨forgotten, whole, _⟩ := tracks.ban
    apply Reference.after_earned ip calls
    rw [whole, held]
    exact List.mem_append_right _ (List.mem_singleton_self expiry)

/-- How the guard represents the calls it has seen. -/
structure Represents (calls : List Call) : Prop where
  queues : ∀ ip queue, (ConnectionGuard.after calls).timestamps.get ip = some queue →
    queue ≠ [] ∧ queue.length ≤ 30 ∧ queue.Pairwise (· ≤ ·) ∧
      ∀ t ∈ queue, ∀ last ∈ calls.getLast?, t ≤ last.now
  swept : ∀ swept, (ConnectionGuard.after calls).lastSweep = some swept →
    (∀ ip queue, (ConnectionGuard.after calls).timestamps.get ip = some queue →
      ∀ newest ∈ queue.getLast?, swept ≤ newest + fromSecs 10) ∧
    ∀ ip expiry, (ConnectionGuard.after calls).bannedUntil.get ip = some expiry →
      swept < expiry

/-- The calls on which a connection was let in less than `ago` before `now`. -/
def admittedSince (ago now : Nat) (calls : List Call) : List (Call × Bool) :=
  (calls.zip (verdicts .default calls)).filter fun judged =>
    judged.2 = false ∧ now < judged.1.now + ago

/-- Everything the guard keeps has a cause in the last minutes. -/
structure Accounted (calls : List Call) (now : Nat) : Prop where
  swept : ∃ swept, (ConnectionGuard.after calls).lastSweep = some swept ∧
    now < swept + fromSecs 60
  tracked : ∀ ip queue, (ConnectionGuard.after calls).timestamps.get ip = some queue →
    ∃ judged ∈ admittedSince (fromSecs 70) now calls, judged.1.ip.toCanonical = ip
  queues : (ConnectionGuard.after calls).timestamps.keys.card ≤
    (admittedSince (fromSecs 70) now calls).length
  bans : (ConnectionGuard.after calls).bannedUntil.keys.card ≤
    (admittedSince (fromSecs 670) now calls).length

theorem mem_admittedSince {calls : List Call} {ip : IpAddr} {ago t : Nat}
    (admitted : t ∈ admissions ip calls (verdicts .default calls)) (recent : now < t + ago) :
    ∃ judged ∈ admittedSince ago now calls, judged.1.ip.toCanonical = ip := by
  obtain ⟨judged, among, made⟩ := List.mem_filterMap.mp admitted
  rw [Option.ite_none_right_eq_some, Option.some.injEq] at made
  obtain ⟨⟨own, passed⟩, rfl⟩ := made
  exact ⟨judged, List.mem_filter.mpr ⟨among, decide_eq_true ⟨passed, recent⟩⟩, own⟩

/-- No call comes after the last one. -/
theorem exists_last {calls : List Call}
    (ordered : calls.Pairwise fun first second => first.now ≤ second.now) :
    ∃ now, (∀ call ∈ calls, call.now ≤ now) ∧ ∀ last ∈ calls.getLast?, now = last.now := by
  rcases List.eq_nil_or_concat calls with rfl | ⟨earlier, call, rfl⟩
  · exact ⟨0, by simp, by simp⟩
  · rw [List.concat_eq_append] at ordered ⊢
    refine ⟨call.now, fun other member => ?_, by simp⟩
    rcases List.mem_append.mp member with old | new
    · exact (List.pairwise_append.mp ordered).2.2 other old call (List.mem_singleton_self call)
    · rw [List.mem_singleton.mp new]

theorem represents_after {calls : List Call}
    (ordered : calls.Pairwise fun first second => first.now ≤ second.now) :
    Represents calls := by
  obtain ⟨now, past, latest⟩ := exists_last ordered
  have kept := kept_after ordered past
  refine ⟨fun ip queue held => ?_, fun swept held => ⟨fun ip queue tracked => ?_, ?_⟩⟩
  · have tidy := (kept.queues ip queue held).2
    refine ⟨tidy.nonempty, tidy.short, tidy.sorted, fun t member last shape => ?_⟩
    rw [← latest last shape]
    exact tidy.past t member
  · exact (kept.queues ip queue tracked).2.young swept held
  · exact fun ip expiry banned => (kept.bans ip expiry banned).2 swept held

/-- A guard that has swept lately keeps nothing without a cause in the last minutes. -/
theorem accounted_of_swept {calls : List Call}
    (ordered : calls.Pairwise fun first second => first.now ≤ second.now)
    (past : ∀ call ∈ calls, call.now ≤ now) {last : Nat}
    (held : (ConnectionGuard.after calls).lastSweep = some last)
    (recent : now < last + sweepInterval) : Accounted calls now := by
  have kept := kept_after ordered past
  have seventy : fromSecs 70 = floodWindow + sweepInterval := by decide
  have more : fromSecs 670 = fromSecs 610 + sweepInterval := by decide
  have tracked : ∀ ip queue, (ConnectionGuard.after calls).timestamps.get ip = some queue →
      ∃ judged ∈ admittedSince (fromSecs 70) now calls, judged.1.ip.toCanonical = ip := by
    intro ip queue present
    obtain ⟨guarded, tidy⟩ := kept.queues ip queue present
    have newest := List.getLast?_eq_some_getLast tidy.nonempty
    have young := tidy.young last held _ newest
    have admitted := (entries_admitted ordered past guarded).1 queue present _
      (List.getLast_mem tidy.nonempty)
    exact mem_admittedSince admitted (by omega)
  have banned : ∀ ip expiry, (ConnectionGuard.after calls).bannedUntil.get ip = some expiry →
      ∃ judged ∈ admittedSince (fromSecs 670) now calls, judged.1.ip.toCanonical = ip := by
    intro ip expiry present
    obtain ⟨guarded, active⟩ := kept.bans ip expiry present
    have late := active last held
    obtain ⟨t, admitted, near⟩ := (entries_admitted ordered past guarded).2 expiry present
    exact mem_admittedSince admitted (by omega)
  exact ⟨⟨last, held, recent⟩, tracked, FiniteMap.card_keys_le _ tracked,
    FiniteMap.card_keys_le _ banned⟩

/-- After calls in time order the guard keeps of each address a queue of one to thirty
connections in their order, none later than the last call, none of them given up at the
last sweep, and no ban that was over then.  After a call that was neither allowlisted nor
met by a ban the last sweep lies less than 60 seconds back, so that each address has had a
connection let in less than 70 seconds ago, and the maps have no more entries than
connections were let in during the last minutes. -/
theorem guard_growth (calls : List Call)
    (ordered : calls.Pairwise fun first second => first.now ≤ second.now) :
    Represents calls ∧
    ∀ earlier call, calls = earlier ++ [call] → isAllowlisted call.ip.toCanonical = false →
      (ConnectionGuard.after earlier).bans call.ip.toCanonical call.now = false →
      Accounted calls call.now := by
  refine ⟨represents_after ordered, ?_⟩
  rintro earlier call rfl guarded unbanned
  have parts := List.pairwise_append.mp ordered
  have before := kept_after parts.1 fun other member =>
    parts.2.2 other member call (List.mem_singleton_self call)
  obtain ⟨last, held, recent⟩ := (before.shouldBlock call.ip).2 guarded unbanned
  rw [← ConnectionGuard.after_snoc] at held
  obtain ⟨now, past, latest⟩ := exists_last ordered
  rw [latest call (by simp)] at past
  exact accounted_of_swept ordered past held recent

/-- Two addresses with their connections, and the sweep after a pause. -/
theorem guard_growth_swept :
    Accounted [⟨.v4 0x0A000001#32, 0⟩, ⟨.v4 0x0A000002#32, fromSecs 1⟩,
      ⟨.v4 0x0A000001#32, fromSecs 70⟩] (fromSecs 70) := by
  refine (guard_growth [⟨.v4 0x0A000001#32, 0⟩, ⟨.v4 0x0A000002#32, fromSecs 1⟩,
    ⟨.v4 0x0A000001#32, fromSecs 70⟩] (by decide)).2
    [⟨.v4 0x0A000001#32, 0⟩, ⟨.v4 0x0A000002#32, fromSecs 1⟩]
    ⟨.v4 0x0A000001#32, fromSecs 70⟩ rfl (by decide) ?_
  decide +kernel

end RustGameserver.Net
