import ChainExplorer.History
import Mathlib.Data.List.Induction

set_option autoImplicit false

namespace ChainExplorer

namespace History

theorem current_entry (history : History) : history.entries[history.cursor]? = some history.current :=
  List.getElem?_eq_getElem history.cursor_lt

theorem same_place (history other : History) (entries : history.entries = other.entries)
    (cursor : history.cursor = other.cursor) : history = other := by
  cases history
  cases other
  simp only at entries cursor
  subst entries cursor
  rfl

theorem push_same (history : History) (visit : Visit) (current : history.current = visit) :
    history.push visit = history := by
  rw [push, if_pos current]

theorem push_other (history : History) (visit : Visit) (different : history.current ≠ visit) :
    (history.push visit).entries = history.entries.take (history.cursor + 1) ++ [visit] ∧
      (history.push visit).cursor = history.cursor + 1 := by
  simp [push, different]

theorem push_current (history : History) (visit : Visit) : (history.push visit).current = visit := by
  by_cases same : history.current = visit
  · rw [push_same history visit same, same]
  · obtain ⟨entries, cursor⟩ := push_other history visit same
    have here := (history.push visit).current_entry
    have bound : (history.entries.take (history.cursor + 1)).length = history.cursor + 1 := by
      rw [List.length_take]
      exact Nat.min_eq_left history.cursor_lt
    rw [entries, cursor, List.getElem?_append_right (Nat.le_of_eq bound), bound, Nat.sub_self] at here
    exact (Option.some.inj here).symm

-- Moving leaves the entries alone.
theorem back_frame (history earlier : History) (moved : history.back = some earlier) :
    earlier.entries = history.entries ∧ earlier.cursor + 1 = history.cursor := by
  by_cases first : history.cursor = 0
  · simp [back, first] at moved
  · simp only [back, if_neg first, Option.some.injEq] at moved
    subst moved
    exact ⟨rfl, Nat.succ_pred_eq_of_ne_zero first⟩

theorem forward_frame (history later : History) (moved : history.forward = some later) :
    later.entries = history.entries ∧ later.cursor = history.cursor + 1 := by
  by_cases onward : history.cursor + 1 < history.entries.length
  · simp only [forward, dif_pos onward, Option.some.injEq] at moved
    subst moved
    exact ⟨rfl, rfl⟩
  · simp [forward, onward] at moved

theorem back_some (history : History) : history.back.isSome ↔ 0 < history.cursor := by
  by_cases first : history.cursor = 0
  · simp [back, first]
  · simp [back, first, Nat.pos_of_ne_zero first]

theorem forward_some (history : History) :
    history.forward.isSome ↔ history.cursor + 1 < history.entries.length := by
  by_cases onward : history.cursor + 1 < history.entries.length <;> simp [forward, onward]

theorem back_forward (history earlier : History) (moved : history.back = some earlier) :
    earlier.forward = some history := by
  obtain ⟨entries, cursor⟩ := back_frame history earlier moved
  have onward : earlier.cursor + 1 < earlier.entries.length := by
    rw [entries, cursor]
    exact history.cursor_lt
  obtain ⟨later, again⟩ := Option.isSome_iff_exists.mp ((forward_some earlier).mpr onward)
  obtain ⟨kept, place⟩ := forward_frame earlier later again
  rw [again, same_place later history (kept.trans entries) (place.trans cursor)]

theorem forward_back (history later : History) (moved : history.forward = some later) :
    later.back = some history := by
  obtain ⟨entries, cursor⟩ := forward_frame history later moved
  have behind : 0 < later.cursor := by omega
  obtain ⟨earlier, again⟩ := Option.isSome_iff_exists.mp ((back_some later).mpr behind)
  obtain ⟨kept, place⟩ := back_frame later earlier again
  rw [again, same_place earlier history (kept.trans entries) (by omega)]

inductive Move where
  | push (visit : Visit)
  | back
  | forward

def arrive (history : History) : Option History → History × Option Visit
  | none => (history, none)
  | some other => (other, some other.current)

-- Carries out a move. Going back or forward answers with the entry that is restored, if there is one.
def perform (history : History) : Move → History × Option Visit
  | .push visit => (history.push visit, none)
  | .back => history.arrive history.back
  | .forward => history.arrive history.forward

end History

-- A visit with those behind it and those ahead of it, both in the order in which they were made.
structure Trail where
  behind : List Visit
  here : Visit
  ahead : List Visit

namespace Trail

open History (Move)

def start : Trail := ⟨[], none, []⟩

def push (trail : Trail) (visit : Visit) : Trail :=
  if trail.here = visit then trail else ⟨trail.behind ++ [trail.here], visit, []⟩

def back (trail : Trail) : Trail × Option Visit :=
  match trail.behind.getLast? with
  | none => (trail, none)
  | some earlier => (⟨trail.behind.dropLast, earlier, trail.here :: trail.ahead⟩, some earlier)

def forward (trail : Trail) : Trail × Option Visit :=
  match trail.ahead with
  | [] => (trail, none)
  | later :: rest => (⟨trail.behind ++ [trail.here], later, rest⟩, some later)

def perform (trail : Trail) : Move → Trail × Option Visit
  | .push visit => (trail.push visit, none)
  | .back => trail.back
  | .forward => trail.forward

def visits (trail : Trail) : List Visit := trail.behind ++ trail.here :: trail.ahead

end Trail

namespace History

-- The history has the visits of the trail and stands at the same one.
structure Follows (history : History) (trail : Trail) : Prop where
  entries : history.entries = trail.visits
  cursor : history.cursor = trail.behind.length

variable (history : History) (trail : Trail) (follows : history.Follows trail)

include follows

theorem follows_current : history.current = trail.here := by
  have here := history.current_entry
  rw [follows.entries, follows.cursor, Trail.visits, List.getElem?_append_right (Nat.le_refl _), Nat.sub_self] at here
  exact (Option.some.inj here).symm

theorem follows_push (visit : Visit) : (history.push visit).Follows (trail.push visit) := by
  have current := follows_current history trail follows
  by_cases same : trail.here = visit
  · rw [push_same history visit (current.trans same), Trail.push, if_pos same]
    exact follows
  · obtain ⟨entries, cursor⟩ := push_other history visit (current ▸ same)
    rw [Trail.push, if_neg same]
    constructor
    · rw [entries, follows.entries, follows.cursor]
      simp [Trail.visits, List.take_append, List.take_of_length_le]
    · rw [cursor, follows.cursor]
      simp

theorem follows_back :
    (history.arrive history.back).1.Follows trail.back.1 ∧ (history.arrive history.back).2 = trail.back.2 := by
  obtain ⟨behind, here, ahead⟩ := trail
  obtain ⟨entries, cursor⟩ := follows
  rcases List.eq_nil_or_concat behind with rfl | ⟨earliest, earlier, rfl⟩
  · have stays : history.back = none := by simpa [back] using cursor
    rw [stays]
    exact ⟨⟨entries, cursor⟩, rfl⟩
  · have behind : 0 < history.cursor := by simp [cursor]
    obtain ⟨other, moved⟩ := Option.isSome_iff_exists.mp ((back_some history).mpr behind)
    obtain ⟨kept, place⟩ := back_frame history other moved
    have follows : other.Follows ⟨earliest, earlier, here :: ahead⟩ := by
      constructor
      · rw [kept, entries]
        simp [Trail.visits]
      · simp only [List.concat_eq_append, List.length_append, List.length_singleton] at cursor
        simp only
        omega
    rw [moved]
    simp only [arrive, Trail.back, List.concat_eq_append, List.getLast?_concat, List.dropLast_concat]
    exact ⟨follows, congrArg some (follows_current other _ follows)⟩

theorem follows_forward :
    (history.arrive history.forward).1.Follows trail.forward.1 ∧
      (history.arrive history.forward).2 = trail.forward.2 := by
  obtain ⟨behind, here, ahead⟩ := trail
  obtain ⟨entries, cursor⟩ := follows
  cases ahead with
  | nil =>
      have stays : history.forward = none := by simp [forward, entries, cursor, Trail.visits]
      rw [stays]
      exact ⟨⟨entries, cursor⟩, rfl⟩
  | cons later rest =>
      have onward : history.cursor + 1 < history.entries.length := by simp [entries, cursor, Trail.visits]
      obtain ⟨other, moved⟩ := Option.isSome_iff_exists.mp ((forward_some history).mpr onward)
      obtain ⟨kept, place⟩ := forward_frame history other moved
      have follows : other.Follows ⟨behind ++ [here], later, rest⟩ := by
        constructor
        · rw [kept, entries]
          simp [Trail.visits]
        · rw [place, cursor]
          simp
      rw [moved]
      exact ⟨follows, congrArg some (follows_current other _ follows)⟩

theorem follows_perform (move : Move) :
    (history.perform move).1.Follows (trail.perform move).1 ∧ (history.perform move).2 = (trail.perform move).2 := by
  cases move with
  | push visit => exact ⟨follows_push history trail follows visit, rfl⟩
  | back => exact follows_back history trail follows
  | forward => exact follows_forward history trail follows

omit follows

theorem start_follows : start.Follows .start := ⟨rfl, rfl⟩

-- Carries out moves one after the other and collects their answers.
def performAll {State : Type} (perform : State → Move → State × Option Visit) (start : State) (moves : List Move) :
    State × List (Option Visit) :=
  moves.foldl (fun (state, answers) move => ((perform state move).1, answers ++ [(perform state move).2])) (start, [])

theorem perform_all_concat {State : Type} (perform : State → Move → State × Option Visit) (start : State)
    (moves : List Move) (last : Move) :
    performAll perform start (moves ++ [last]) =
      let before := performAll perform start moves
      ((perform before.1 last).1, before.2 ++ [(perform before.1 last).2]) := by
  rw [performAll, List.foldl_append]
  rfl

theorem perform_all_follows (moves : List Move) :
    (performAll History.perform start moves).1.Follows (performAll Trail.perform .start moves).1 ∧
      (performAll History.perform start moves).2 = (performAll Trail.perform .start moves).2 := by
  induction moves using List.reverseRecOn with
  | nil => exact ⟨start_follows, rfl⟩
  | append_singleton before last ih =>
      obtain ⟨follows, told⟩ := ih
      obtain ⟨after, answer⟩ := follows_perform _ _ follows last
      rw [perform_all_concat, perform_all_concat]
      exact ⟨after, by simp only [told, answer]⟩

theorem history_is_a_trail (moves : List Move) :
    let (history, answers) := performAll History.perform .start moves
    let (trail, expected) := performAll Trail.perform .start moves
    answers = expected ∧ history.current = trail.here ∧ history.entries = trail.behind ++ trail.here :: trail.ahead ∧
      history.cursor = trail.behind.length ∧ history.cursor < history.entries.length ∧
      history.size = trail.behind.length + 1 + trail.ahead.length ∧
      (history.canGoBack = history.back.isSome ∧ (history.canGoBack ↔ trail.behind ≠ [])) ∧
      (history.canGoForward = history.forward.isSome ∧ (history.canGoForward ↔ trail.ahead ≠ [])) ∧
      (∀ earlier, history.back = some earlier → earlier.forward = some history) ∧
      ∀ later, history.forward = some later → later.back = some history := by
  obtain ⟨follows, same⟩ := perform_all_follows moves
  generalize performAll History.perform start moves = performed at follows same ⊢
  generalize performAll Trail.perform .start moves = expected at follows same ⊢
  obtain ⟨history, answers⟩ := performed
  obtain ⟨trail, told⟩ := expected
  dsimp only at follows same ⊢
  have size : history.size = trail.behind.length + 1 + trail.ahead.length := by
    rw [History.size, follows.entries, Trail.visits, List.length_append, List.length_cons]
    omega
  have behind : history.canGoBack ↔ trail.behind ≠ [] := by
    rw [canGoBack, decide_eq_true_iff, follows.cursor, List.length_pos_iff]
  have ahead : history.canGoForward ↔ trail.ahead ≠ [] := by
    rw [canGoForward, decide_eq_true_iff, ← List.length_pos_iff]
    rw [follows.cursor, ← History.size, size]
    omega
  refine ⟨same, follows_current history trail follows, follows.entries, follows.cursor, history.cursor_lt, size,
    ⟨?_, behind⟩, ⟨?_, ahead⟩, back_forward history, forward_back history⟩
  · rw [Bool.eq_iff_iff, back_some, canGoBack, decide_eq_true_iff]
  · rw [Bool.eq_iff_iff, forward_some, canGoForward, decide_eq_true_iff]

end History
end ChainExplorer
