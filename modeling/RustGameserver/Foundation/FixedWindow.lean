import Mathlib.Data.List.Basic
import Mathlib.Data.List.Induction

/-!
Contract: limiters with a fixed window, for any width of the window and any number
of attempts it grants.

Owns:
- the limiter: a window opens with the first attempt after the last window has
  passed, and its first attempts are granted;
- the log of all attempts made on a limiter;
- what is granted from one opening to the next, and in an interval of the width of
  a window, wherever it lies;
- what has been granted before an attempt is refused.

Does not own: who makes the attempts.
-/

namespace RustGameserver.Foundation.FixedWindow

/-- The opening of the current window, and the attempts made since, the first one
included. -/
structure Limiter where
  window : Option Nat
  count : Nat
deriving DecidableEq, Repr

/-- One attempt: whether it opened a window, and whether it was granted. -/
structure Entry where
  now : Nat
  opens : Bool
  granted : Bool
deriving DecidableEq, Repr

variable (width capacity : Nat)

namespace Limiter

def start : Limiter := ⟨none, 0⟩

def expired (limiter : Limiter) (now : Nat) : Bool :=
  limiter.window.all fun opening => width ≤ now - opening

def consume (limiter : Limiter) (now : Nat) : Limiter :=
  if limiter.expired width now then ⟨some now, 1⟩
  else { limiter with count := limiter.count + 1 }

def entry (limiter : Limiter) (now : Nat) : Entry :=
  ⟨now, limiter.expired width now, (limiter.consume width now).count ≤ capacity⟩

end Limiter

/-- The attempts made on a limiter up to some time, in their order. -/
inductive Logs : List Entry → Limiter → Nat → Prop where
  | start (clock : Nat) : Logs [] .start clock
  | wait {entries : List Entry} {limiter : Limiter} {clock soon : Nat}
      (logs : Logs entries limiter clock) (ordered : clock ≤ soon) : Logs entries limiter soon
  | attempt {entries : List Entry} {limiter : Limiter} {clock : Nat}
      (logs : Logs entries limiter clock) :
      Logs (entries ++ [limiter.entry width capacity clock]) (limiter.consume width clock) clock

variable {width capacity} {entries : List Entry} {limiter : Limiter} {clock : Nat}

/-- An attempt opens a window, after the last one if there was one, or is one more
of the current window. -/
theorem attempt_cases (positive : 0 < width) (capacity : Nat) (limiter : Limiter) (now : Nat) :
    ((∀ opening, limiter.window = some opening → opening + width ≤ now) ∧
      limiter.consume width now = ⟨some now, 1⟩ ∧
      limiter.entry width capacity now = ⟨now, true, decide (1 ≤ capacity)⟩) ∨
    (∃ opening, limiter.window = some opening ∧ now < opening + width ∧
      limiter.consume width now = ⟨some opening, limiter.count + 1⟩ ∧
      limiter.entry width capacity now = ⟨now, false, decide (limiter.count + 1 ≤ capacity)⟩) := by
  obtain ⟨window, count⟩ := limiter
  cases window with
  | none =>
      left
      exact ⟨by simp, rfl, rfl⟩
  | some opening =>
      by_cases past : width ≤ now - opening
      · left
        have expired : Limiter.expired width ⟨some opening, count⟩ now = true := by
          simpa [Limiter.expired] using past
        refine ⟨fun other same => ?_, ?_, ?_⟩
        · rw [Option.some.injEq] at same
          omega
        · rw [Limiter.consume, if_pos expired]
        · rw [Limiter.entry, Limiter.consume, if_pos expired, expired]
      · right
        have lasting : Limiter.expired width ⟨some opening, count⟩ now = false := by
          simpa [Limiter.expired] using past
        refine ⟨opening, rfl, by omega, ?_, ?_⟩
        · rw [Limiter.consume, lasting, if_neg (by decide)]
        · rw [Limiter.entry, Limiter.consume, lasting, if_neg (by decide)]

theorem Logs.past (logs : Logs width capacity entries limiter clock) :
    ∀ entry ∈ entries, entry.now ≤ clock := by
  induction logs with
  | start clock => simp
  | wait _ ordered inductionHypothesis =>
      exact fun entry member => Nat.le_trans (inductionHypothesis entry member) ordered
  | attempt _ inductionHypothesis =>
      intro entry member
      rw [List.mem_append, List.mem_singleton] at member
      rcases member with earlier | rfl
      · exact inductionHypothesis entry earlier
      · exact Nat.le_refl _

/-- A window is open from the first attempt on. -/
theorem Logs.current (positive : 0 < width) (logs : Logs width capacity entries limiter clock) :
    (limiter.window = none → entries = []) ∧
      ∀ opening, limiter.window = some opening → opening ≤ clock ∧ 1 ≤ limiter.count := by
  induction logs with
  | start => simp [Limiter.start]
  | wait _ ordered inductionHypothesis =>
      refine ⟨inductionHypothesis.1, fun opening window => ?_⟩
      have known := inductionHypothesis.2 opening window
      omega
  | @attempt entries limiter clock logs inductionHypothesis =>
      rcases attempt_cases positive capacity limiter clock with
        ⟨after, consumed, entry⟩ | ⟨first, window, inside, consumed, entry⟩
      · rw [consumed]
        refine ⟨by simp, fun opening same => ?_⟩
        rw [Option.some.injEq] at same
        exact ⟨by omega, Nat.le_refl 1⟩
      · rw [consumed]
        refine ⟨by simp, fun opening same => ?_⟩
        have known := inductionHypothesis.2 first window
        rw [Option.some.injEq] at same
        exact ⟨by omega, Nat.le_add_left 1 _⟩

/-- An attempt was made on the limiter as the attempts before it left it. -/
theorem Logs.before {earlier later : List Entry} {entry : Entry}
    (logs : Logs width capacity (earlier ++ entry :: later) limiter clock) :
    ∃ prior now, Logs width capacity earlier prior now ∧
      entry = prior.entry width capacity now := by
  generalize whole : earlier ++ entry :: later = entries at logs
  induction logs generalizing later with
  | start => simp at whole
  | wait _ _ inductionHypothesis => exact inductionHypothesis whole
  | @attempt entries prior now logs inductionHypothesis =>
      rcases List.eq_nil_or_concat later with rfl | ⟨fewer, last, rfl⟩
      · have parts := List.append_inj' whole rfl
        rw [List.singleton_inj] at parts
        rw [parts.1, parts.2]
        exact ⟨prior, now, logs, rfl⟩
      · rw [List.concat_eq_append, ← List.cons_append, ← List.append_assoc] at whole
        exact inductionHypothesis (List.append_inj' whole rfl).1

/-! ## From one opening to the next -/

/-- Openings lie a window apart. -/
theorem Logs.openings (positive : 0 < width) (logs : Logs width capacity entries limiter clock) :
    (∀ entry ∈ entries, entry.opens = true →
      ∃ opening, limiter.window = some opening ∧ entry.now ≤ opening) ∧
      (entries.filter Entry.opens).Pairwise fun one other => one.now + width ≤ other.now := by
  induction logs with
  | start => simp
  | wait _ _ inductionHypothesis => exact inductionHypothesis
  | @attempt entries limiter clock logs inductionHypothesis =>
      obtain ⟨known, apart⟩ := inductionHypothesis
      rcases attempt_cases positive capacity limiter clock with
        ⟨after, consumed, entry⟩ | ⟨opening, window, inside, consumed, entry⟩
      · rw [consumed, entry, List.filter_append]
        constructor
        · intro other member opens
          rw [List.mem_append, List.mem_singleton] at member
          rcases member with earlier | rfl
          · exact ⟨clock, rfl, logs.past other earlier⟩
          · exact ⟨clock, rfl, Nat.le_refl _⟩
        · rw [List.pairwise_append]
          refine ⟨apart, List.pairwise_singleton .., fun one member other last => ?_⟩
          rw [List.mem_filter] at member
          obtain ⟨opening, window, early⟩ := known one member.1 member.2
          have passed := after opening window
          simp only [List.filter_cons_of_pos, List.filter_nil, List.mem_singleton] at last
          rw [last]
          show one.now + width ≤ clock
          omega
      · rw [consumed, entry, List.filter_append]
        constructor
        · intro other member opens
          rw [List.mem_append, List.mem_singleton] at member
          rcases member with earlier | rfl
          · obtain ⟨first, same, early⟩ := known other earlier opens
            rw [window] at same
            rw [Option.some.injEq] at same
            exact ⟨opening, rfl, by omega⟩
          · contradiction
        · simpa using apart

/-- Since the last opening no more is granted than the window has room for. -/
theorem Logs.since_opening (positive : 0 < width)
    (logs : Logs width capacity entries limiter clock) :
    ∀ front block, entries = front ++ block → block ≠ [] →
      (∀ entry ∈ block.tail, entry.opens = false) →
      block.countP Entry.granted ≤ min limiter.count capacity := by
  induction logs with
  | start =>
      intro front block whole nonempty
      simp only [List.nil_eq, List.append_eq_nil_iff] at whole
      exact absurd whole.2 nonempty
  | wait _ _ inductionHypothesis => exact inductionHypothesis
  | @attempt entries limiter clock logs inductionHypothesis =>
      intro front block whole nonempty silent
      obtain ⟨fewer, last, rfl⟩ := (List.eq_nil_or_concat block).resolve_left nonempty
      rw [List.concat_eq_append] at *
      rw [← List.append_assoc] at whole
      have parts := List.append_inj' whole rfl
      rw [List.singleton_inj] at parts
      rw [List.countP_append, List.countP_singleton, ← parts.2]
      rcases attempt_cases positive capacity limiter clock with
        ⟨after, consumed, entry⟩ | ⟨opening, window, inside, consumed, entry⟩
      · -- an opening can only stand first
        have alone : fewer = [] := by
          cases fewer with
          | nil => rfl
          | cons first rest =>
              have closed := silent last (by simp)
              rw [← parts.2, entry] at closed
              contradiction
        rw [alone, consumed, entry]
        by_cases room : 1 ≤ capacity
        · simp [room]
        · simp [room]
      · have earlier : fewer.countP Entry.granted ≤ min limiter.count capacity := by
          cases fewer with
          | nil => simp
          | cons first rest =>
              apply inductionHypothesis front _ parts.1 (by simp)
              intro other member
              exact silent other (List.mem_append_left _ member)
        rw [consumed, entry]
        by_cases room : limiter.count + 1 ≤ capacity
        · rw [decide_eq_true room, if_pos rfl]
          show _ ≤ min (limiter.count + 1) capacity
          omega
        · simp only [room, decide_false, Bool.false_eq_true, if_false]
          omega

/-- From one opening to the next no more is granted than a window has room for. -/
theorem Logs.stretch (positive : 0 < width) {front block back : List Entry}
    (logs : Logs width capacity (front ++ block ++ back) limiter clock)
    (silent : ∀ entry ∈ block.tail, entry.opens = false) :
    block.countP Entry.granted ≤ capacity := by
  have started : ∃ prior now, Logs width capacity (front ++ block) prior now := by
    cases back with
    | nil =>
        rw [List.append_nil] at logs
        exact ⟨limiter, clock, logs⟩
    | cons entry later =>
        obtain ⟨prior, now, earlier, _⟩ := logs.before
        exact ⟨prior, now, earlier⟩
  obtain ⟨prior, now, earlier⟩ := started
  by_cases nothing : block = []
  · simp [nothing]
  · have bounded := earlier.since_opening positive front block rfl nothing silent
    omega

/-! ## Refusals -/

/-- As many have been granted since the opening as have been made, as far as there is
room. -/
theorem Logs.granted_since (positive : 0 < width)
    (logs : Logs width capacity entries limiter clock) :
    ∀ opening, limiter.window = some opening →
      min limiter.count capacity ≤
        entries.countP fun entry => entry.granted ∧ opening ≤ entry.now := by
  induction logs with
  | start => simp [Limiter.start]
  | wait _ _ inductionHypothesis => exact inductionHypothesis
  | @attempt entries limiter clock logs inductionHypothesis =>
      intro opening current
      rw [List.countP_append, List.countP_singleton]
      rcases attempt_cases positive capacity limiter clock with
        ⟨after, consumed, entry⟩ | ⟨first, window, inside, consumed, entry⟩
      · rw [consumed, Option.some.injEq] at current
        rw [consumed, entry, ← current]
        by_cases room : 1 ≤ capacity
        · simp [room]
        · have none : min 1 capacity = 0 := by omega
          simp [none]
      · rw [consumed, Option.some.injEq] at current
        have earlier := inductionHypothesis first window
        have opened := ((logs.current positive).2 first window).1
        rw [consumed, entry, ← current]
        by_cases room : limiter.count + 1 ≤ capacity
        · simp only [room, opened, decide_true, and_self, if_true]
          omega
        · simp only [room, decide_false, Bool.false_eq_true, false_and, if_false]
          omega

/-- An attempt is refused only when the window's room has been used up less than a
window before. -/
theorem Logs.refused (positive : 0 < width) {earlier later : List Entry} {entry : Entry}
    (logs : Logs width capacity (earlier ++ entry :: later) limiter clock)
    (room : 0 < capacity) (refused : entry.granted = false) :
    capacity ≤ earlier.countP fun other => other.granted ∧ entry.now < other.now + width := by
  obtain ⟨prior, now, before, rfl⟩ := logs.before
  rcases attempt_cases positive capacity prior now with
    ⟨after, consumed, made⟩ | ⟨opening, window, inside, consumed, made⟩
  · rw [made] at refused
    simp only [decide_eq_false_iff_not] at refused
    omega
  · rw [made] at refused ⊢
    simp only [decide_eq_false_iff_not] at refused
    have used := before.granted_since positive opening window
    have within : (earlier.countP fun other => other.granted ∧ opening ≤ other.now) ≤
        earlier.countP fun other => other.granted ∧ now < other.now + width := by
      apply List.countP_mono_left
      intro other member
      simp only [decide_eq_true_eq]
      rintro ⟨granted, late⟩
      exact ⟨granted, by omega⟩
    show capacity ≤ earlier.countP fun other => other.granted ∧ now < other.now + width
    omega

/-! ## Any interval -/

/-- The attempts granted in the half-open interval of the width of a window from
`start`. -/
def grantedIn (width start : Nat) (entries : List Entry) : Nat :=
  entries.countP fun entry => entry.granted ∧ start ≤ entry.now ∧ entry.now < start + width

theorem grantedIn_snoc (start : Nat) (entries : List Entry) (entry : Entry) :
    grantedIn width start (entries ++ [entry]) = grantedIn width start entries +
      if entry.granted ∧ start ≤ entry.now ∧ entry.now < start + width then 1 else 0 := by
  simp [grantedIn]

/-- Nothing has been granted in an interval that has not begun. -/
theorem Logs.grantedIn_future (logs : Logs width capacity entries limiter clock) {start : Nat}
    (future : clock < start) : grantedIn width start entries = 0 := by
  rw [grantedIn, List.countP_eq_zero]
  intro entry member
  have past := logs.past entry member
  simp only [decide_eq_true_eq]
  omega

/-- How much of the interval from `start` has been used, by where it lies to the
opening of the current window: of a window opened before the interval the first
attempt does not lie in it, and when a window opens in the interval the last one was
opened before it. -/
structure Bounded (width capacity start : Nat) (entries : List Entry) (limiter : Limiter) :
    Prop where
  before : ∀ opening, limiter.window = some opening → opening < start →
    grantedIn width start entries ≤ min limiter.count capacity - 1
  inside : ∀ opening, limiter.window = some opening → start ≤ opening →
    opening < start + width →
    grantedIn width start entries ≤ capacity - 1 + min limiter.count capacity
  always : grantedIn width start entries ≤ 2 * capacity - 1

/-- An attempt that opens a window: the last window was opened before any interval that
this one is opened in. -/
theorem Bounded.opening {start : Nat} (known : Bounded width capacity start entries limiter)
    (positive : 0 < width) (room : 0 < capacity)
    (logs : Logs width capacity entries limiter clock)
    (after : ∀ opening, limiter.window = some opening → opening + width ≤ clock) :
    Bounded width capacity start (entries ++ [⟨clock, true, true⟩]) ⟨some clock, 1⟩ := by
  have earlier : clock < start + width → grantedIn width start entries ≤ capacity - 1 := by
    intro early
    cases window : limiter.window with
    | none => simp [(logs.current positive).1 window, grantedIn]
    | some opening =>
        have passed := after opening window
        have used := known.before opening window (by omega)
        omega
  have always := known.always
  refine ⟨fun opening same future => ?_, fun opening same begun lasting => ?_, ?_⟩
  · rw [Option.some.injEq] at same
    have nothing := logs.grantedIn_future (by omega : clock < start)
    rw [grantedIn_snoc, nothing, if_neg (by simp; omega)]
    omega
  · rw [Option.some.injEq] at same
    have used := earlier (by omega)
    rw [grantedIn_snoc, if_pos ⟨rfl, by simp; omega, by simp; omega⟩]
    show _ ≤ capacity - 1 + min 1 capacity
    omega
  · rw [grantedIn_snoc]
    by_cases inside : start ≤ clock ∧ clock < start + width
    · have used := earlier inside.2
      rw [if_pos ⟨rfl, inside.1, inside.2⟩]
      omega
    · rw [if_neg (by simpa using inside)]
      omega

/-- One more attempt of the current window. -/
theorem Bounded.counting {start opening : Nat}
    (known : Bounded width capacity start entries limiter)
    (window : limiter.window = some opening)
    (started : opening ≤ clock ∧ 1 ≤ limiter.count) :
    Bounded width capacity start
      (entries ++ [⟨clock, false, decide (limiter.count + 1 ≤ capacity)⟩])
      ⟨some opening, limiter.count + 1⟩ := by
  have always := known.always
  have before := known.before opening window
  have within := known.inside opening window
  refine ⟨fun other same future => ?_, fun other same begun early => ?_, ?_⟩
  · rw [Option.some.injEq] at same
    have used := before (by omega)
    rw [grantedIn_snoc]
    by_cases granted : limiter.count + 1 ≤ capacity
    · show _ + ite _ _ _ ≤ min (limiter.count + 1) capacity - 1
      split <;> omega
    · rw [if_neg (by simp [granted])]
      show _ ≤ min (limiter.count + 1) capacity - 1
      omega
  · rw [Option.some.injEq] at same
    have used := within (by omega) (by omega)
    rw [grantedIn_snoc]
    by_cases granted : limiter.count + 1 ≤ capacity
    · show _ + ite _ _ _ ≤ capacity - 1 + min (limiter.count + 1) capacity
      split <;> omega
    · rw [if_neg (by simp [granted])]
      show _ ≤ capacity - 1 + min (limiter.count + 1) capacity
      omega
  · rw [grantedIn_snoc]
    split
    · next counted =>
        have granted : limiter.count + 1 ≤ capacity := by simpa using counted.1
        have place : start ≤ clock ∧ clock < start + width := counted.2
        by_cases future : opening < start
        · have used := before future
          omega
        · have used := within (by omega) (by omega)
          omega
    · omega

theorem Logs.bounded (positive : 0 < width) (room : 0 < capacity)
    (logs : Logs width capacity entries limiter clock) (start : Nat) :
    Bounded width capacity start entries limiter := by
  induction logs with
  | start => exact ⟨by simp [Limiter.start], by simp [Limiter.start], by simp [grantedIn]⟩
  | wait _ _ inductionHypothesis => exact inductionHypothesis
  | @attempt entries limiter clock logs known =>
      rcases attempt_cases positive capacity limiter clock with
        ⟨after, consumed, entry⟩ | ⟨opening, window, -, consumed, entry⟩
      · rw [consumed, entry, decide_eq_true (show 1 ≤ capacity from room)]
        exact known.opening positive room logs after
      · rw [consumed, entry]
        exact known.counting window ((logs.current positive).2 opening window)

/-- In an interval of the width of a window, half open, at most twice the room of a
window but one is granted. -/
theorem Logs.granted_in (positive : 0 < width) (room : 0 < capacity)
    (logs : Logs width capacity entries limiter clock) (start : Nat) :
    grantedIn width start entries ≤ 2 * capacity - 1 :=
  (logs.bounded positive room start).always

end RustGameserver.Foundation.FixedWindow
