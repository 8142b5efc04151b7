import Mathlib.Data.List.Nodup

/-!
Contract: statements about what precedes an entry in a history.

Owns:
- the predicate that every entry of a history is justified by the entries before
  it, and the rules by which it is kept while the history grows;
- the same for the entries after it, which a growing history does not take back;
- when two places in a history are the same place;
- what is read off entries of one kind.

Does not own: any kind of entry.
-/

namespace RustGameserver.Foundation

universe u v w

variable {α : Type u}

/-- Every entry of the history stands in the given relation to what came before. -/
def Justified (reason : List α → α → Prop) (history : List α) : Prop :=
  ∀ earlier entry later, history = earlier ++ entry :: later → reason earlier entry

namespace Justified

variable {reason : List α → α → Prop} {history : List α}

theorem nil : Justified reason [] := by
  intro earlier entry later shape
  simp at shape

/-- A history grows by one justified entry. -/
theorem snoc (justified : Justified reason history) {entry : α}
    (because : reason history entry) : Justified reason (history ++ [entry]) := by
  intro earlier found later shape
  rcases List.eq_nil_or_concat later with rfl | ⟨front, last, rfl⟩
  · obtain ⟨same, found⟩ := List.append_inj' shape rfl
    rw [List.cons.injEq] at found
    rw [← same, ← found.1]
    exact because
  · rw [List.concat_eq_append, ← List.cons_append, ← List.append_assoc] at shape
    exact justified earlier found front (List.append_inj' shape rfl).1

/-- A history grows by several entries, all justified by what there was before. -/
theorem append (justified : Justified reason history) {more : List α}
    (because : ∀ front, ∀ entry ∈ more, reason (history ++ front) entry) :
    Justified reason (history ++ more) := by
  induction more generalizing history with
  | nil => simpa using justified
  | cons entry rest inductionHypothesis =>
      have one := justified.snoc (by simpa using because [] entry (by simp))
      have all := inductionHypothesis one fun front other member => by
        simpa using because (entry :: front) other (by simp [member])
      simpa using all

/-- A history grows by several entries that need no justification. -/
theorem append_free (justified : Justified reason history) {more : List α}
    (free : ∀ earlier, ∀ entry ∈ more, reason earlier entry) :
    Justified reason (history ++ more) :=
  justified.append fun front => free (history ++ front)

end Justified

/-- Every entry of the history stands in the given relation to what came after. -/
def Followed (answered : α → List α → Prop) (history : List α) : Prop :=
  ∀ earlier entry later, history = earlier ++ entry :: later → answered entry later

/-- A history grows by a block of entries that are answered within the block. -/
theorem Followed.append {answered : α → List α → Prop} {history block : List α}
    (followed : Followed answered history) (within : Followed answered block)
    (lasting : ∀ entry later, answered entry later → answered entry (later ++ block)) :
    Followed answered (history ++ block) := by
  intro earlier entry later shape
  rcases List.append_eq_append_iff.mp shape with ⟨middle, first, second⟩ | ⟨middle, first, second⟩
  · exact within middle entry later second
  · cases middle with
    | nil => exact within [] entry later second.symm
    | cons head rest =>
        rw [List.cons_append, List.cons.injEq] at second
        rw [second.1, second.2]
        exact lasting head rest (followed earlier head rest first)

/-! ## Places in a history -/

section Places

variable {β : Type v} {read : α → Option β} {history : List α}

/-- An entry parts its history in two. -/
theorem split_at {place : Nat} {entry : α} (found : history[place]? = some entry) :
    history = history.take place ++ entry :: history.drop (place + 1) := by
  obtain ⟨bound, same⟩ := List.getElem?_eq_some_iff.mp found
  rw [← same, ← List.drop_eq_getElem_cons bound, List.take_append_drop]

/-- Before the later of two places more has been read. -/
theorem read_lt (front middle : List α) {entry : α} {found : β}
    (reads : read entry = some found) :
    (front.filterMap read).length <
      ((front ++ entry :: middle).filterMap read).length := by
  rw [List.filterMap_append, List.filterMap_cons_some reads, List.length_append, List.length_cons]
  omega

/-- Two places before which equally much is read are one place. -/
theorem place_unique {front front' back back' : List α} {entry entry' : α} {found found' : β}
    (here : history = front ++ entry :: back) (there : history = front' ++ entry' :: back')
    (reads : read entry = some found) (reads' : read entry' = some found')
    (same : (front.filterMap read).length = (front'.filterMap read).length) :
    front = front' := by
  rw [here] at there
  rcases List.append_eq_append_iff.mp there with ⟨middle, longer, rest⟩ | ⟨middle, longer, rest⟩
  · cases middle with
    | nil => simpa using longer.symm
    | cons first middle =>
        rw [List.cons_append, List.cons.injEq] at rest
        rw [longer, ← rest.1] at same
        have more := read_lt front middle reads
        omega
  · cases middle with
    | nil => simpa using longer
    | cons first middle =>
        rw [List.cons_append, List.cons.injEq] at rest
        rw [longer, ← rest.1] at same
        have more := read_lt front' middle reads'
        omega

/-- What is read only once is read at one place. -/
theorem place_of_nodup {front front' back back' : List α} {entry entry' : α} {found : β}
    (once : (history.filterMap read).Nodup)
    (here : history = front ++ entry :: back) (there : history = front' ++ entry' :: back')
    (reads : read entry = some found) (reads' : read entry' = some found) : front = front' := by
  apply place_unique here there reads reads'
  have first : history.filterMap read = front.filterMap read ++ found :: back.filterMap read := by
    rw [here, List.filterMap_append, List.filterMap_cons_some reads]
  have second : history.filterMap read =
      front'.filterMap read ++ found :: back'.filterMap read := by
    rw [there, List.filterMap_append, List.filterMap_cons_some reads']
  rw [first] at once second
  rw [List.nodup_middle, List.nodup_cons, List.mem_append, not_or] at once
  have shape := (List.append_cons_inj_of_notMem once.1.1 once.1.2).mp second
  rw [shape.1]

end Places

/-! ## Entries of one kind -/

section Kinds

variable {β : Type v} {γ : Type w} (wrap : α → β)

theorem filterMap_wrapped (read : β → Option γ) (silent : ∀ entry, read (wrap entry) = none)
    (list : List α) : (list.map wrap).filterMap read = [] := by
  simp [List.filterMap_map, silent]

theorem filterMap_unwrapped (read : β → Option α) (same : ∀ entry, read (wrap entry) = some entry)
    (list : List α) : (list.map wrap).filterMap read = list := by
  simp [List.filterMap_map, same]

theorem filterMap_rewrapped (other : α → γ) (read : β → Option γ)
    (same : ∀ entry, read (wrap entry) = some (other entry)) (list : List α) :
    (list.map wrap).filterMap read = list.map other := by
  simp [List.filterMap_map, same]

/-- An entry is read where it stands wrapped. -/
theorem mem_unwrapped {read : β → Option α}
    (only : ∀ wrapped entry, read wrapped = some entry ↔ wrapped = wrap entry)
    {history : List β} {entry : α} : entry ∈ history.filterMap read ↔ wrap entry ∈ history := by
  simp [List.mem_filterMap, only]

end Kinds

end RustGameserver.Foundation
