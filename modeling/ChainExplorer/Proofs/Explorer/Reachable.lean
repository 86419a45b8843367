import ChainExplorer.Proofs.Explorer.Session
import ChainExplorer.Proofs.History.Trail

set_option autoImplicit false

namespace ChainExplorer

open Search (Completion)

namespace History

def Shaped (history : History) : Prop := ∃ keys : List String, history.entries = none :: keys.map some ∧ "" ∉ keys

theorem landing_iff (history : History) (shaped : history.Shaped) : history.current = none ↔ history.cursor = 0 := by
  obtain ⟨keys, entries, _⟩ := shaped
  have here := history.current_entry
  rw [entries] at here
  constructor
  · intro landing
    cases place : history.cursor with
    | zero => rfl
    | succ index =>
        rw [place, landing] at here
        simp at here
  · intro first
    rw [first] at here
    exact (Option.some.inj here).symm

theorem current_key (history : History) (shaped : history.Shaped) (key : String)
    (current : history.current = some key) : key ≠ "" := by
  obtain ⟨keys, entries, present⟩ := shaped
  have here := history.current_entry
  rw [entries, current] at here
  have member := List.mem_of_getElem? here
  rintro rfl
  exact present (by simpa using member)

theorem push_shaped (history : History) (shaped : history.Shaped) (key : String) (present : key ≠ "") :
    (history.push (some key)).Shaped := by
  by_cases same : history.current = some key
  · rwa [push_same history (some key) same]
  · obtain ⟨keys, entries, absent⟩ := shaped
    refine ⟨keys.take history.cursor ++ [key], ?_, ?_⟩
    · rw [(push_other history (some key) same).1, entries, List.take_succ_cons, List.map_append, List.map_take]
      rfl
    · intro member
      rcases List.mem_append.mp member with before | added
      · exact absent (List.mem_of_mem_take before)
      · exact present (List.mem_singleton.mp added).symm

theorem shaped_entries (before after : History) (shaped : before.Shaped) (same : after.entries = before.entries) :
    after.Shaped := by
  obtain ⟨keys, entries, present⟩ := shaped
  exact ⟨keys, same.trans entries, present⟩

end History

theorem key_present (aspect : Aspect) (object : Json.Value) (key : String) (found : aspect.key? object = some key) :
    key ≠ "" := by
  obtain ⟨_, kept⟩ := Option.filter_eq_some_iff.mp found
  rintro rfl
  revert kept
  decide

theorem render_history (view : View) (rendering : Rendering) (key : String)
    (found : rendering.aspect.key? rendering.object = some key) :
    (view.render rendering).history = view.history.push (some key) := by
  unfold View.render View.present
  rw [found]

-- An element of a list that grows at its end is the last one or was there before.
theorem last_or_before {α : Type} (list before after : List α) (last element : α)
    (same : list ++ [last] = before ++ element :: after) :
    (after = [] ∧ before = list ∧ element = last) ∨
      ∃ front, after = front ++ [last] ∧ list = before ++ element :: front := by
  rcases List.eq_nil_or_concat after with rfl | ⟨front, final, rfl⟩
  · obtain ⟨rfl, tail⟩ := List.append_inj' same rfl
    cases tail
    exact .inl ⟨rfl, rfl, rfl⟩
  · rw [List.concat_eq_append] at *
    rw [← List.cons_append, ← List.append_assoc] at same
    obtain ⟨earlier, tail⟩ := List.append_inj' same rfl
    cases tail
    exact .inr ⟨front, rfl, earlier⟩

namespace Explorer

inductive Action where
  | load (search : Option String) (now : Time)
  | apply (command : Command) (time : Time)
  -- The workers take what is in the outbox.
  | dispatch
  | deliver (completion : Completion)
  | close
  | advance (now : Time)
  | draw (width height : Nat)

def act (explorer : Explorer) : Action → Explorer
  | .load search now => explorer.load search now
  | .apply command time => (explorer.apply command time).1
  | .dispatch => { explorer with outbox := [] }
  | .deliver completion => (explorer.deliver completion).1
  | .close => explorer.close
  | .advance now => (explorer.advance now).1
  | .draw width height => (Screen.draw explorer width height).1

-- What can be observed in the course of actions, oldest first.
def along {α : Type} (observe : Explorer → Action → List α) : Explorer → List Action → List α
  | _, [] => []
  | explorer, action :: rest => observe explorer action ++ along observe (explorer.act action) rest

theorem along_append {α : Type} (observe : Explorer → Action → List α) (earlier later : List Action)
    (explorer : Explorer) :
    along observe explorer (earlier ++ later) =
      along observe explorer earlier ++ along observe (earlier.foldl act explorer) later := by
  induction earlier generalizing explorer with
  | nil => rfl
  | cons first rest ih =>
      rw [List.cons_append, along, ih, along, List.append_assoc]
      rfl

theorem along_concat {α : Type} (observe : Explorer → Action → List α) (actions : List Action) (explorer : Explorer)
    (action : Action) :
    along observe explorer (actions ++ [action]) =
      along observe explorer actions ++ observe (actions.foldl act explorer) action := by
  rw [along_append, along, along, List.append_nil]

-- An explorer with the filter on, after any actions in any order.
def Reachable (explorer : Explorer) : Prop :=
  ∃ settleDelay actions, explorer = List.foldl act (start true settleDelay) actions

structure Steady (explorer : Explorer) : Prop where
  filtering : explorer.controller.ignoreStale = true
  shaped : explorer.view.history.Shaped

theorem start_steady (settleDelay : Time) : (start true settleDelay).Steady := ⟨rfl, [], rfl, by simp⟩

theorem send_steady (before after : Explorer) (steady : before.Steady)
    (step : Search.Controller × Option Search.Request) (sends : before.controller.Sends step)
    (controller : after.controller = step.1) (entries : after.view.history.entries = before.view.history.entries) :
    after.Steady := by
  refine ⟨?_, History.shaped_entries _ _ steady.shaped entries⟩
  obtain ⟨changed, request⟩ := step
  rw [controller]
  cases request with
  | none => exact sends.1.trans steady.filtering
  | some request => exact sends.1.trans steady.filtering

theorem navigate_steady (explorer : Explorer) (steady : explorer.Steady) (history : Option History)
    (entries : ∀ other, history = some other → other.entries = explorer.view.history.entries) :
    (explorer.navigate history).Steady := by
  cases history with
  | none => exact steady
  | some history =>
      have sends := Search.Controller.restore_sends explorer.controller explorer.view.results history.current
      exact send_steady explorer _ steady _ sends rfl (entries history rfl)

theorem apply_steady (explorer : Explorer) (steady : explorer.Steady) (command : Command) (time : Time) :
    (explorer.apply command time).1.Steady := by
  cases command with
  | key key =>
      unfold apply
      dsimp only
      split
      · exact send_steady explorer _ steady _ (Search.Controller.type_sends explorer.controller key) rfl rfl
      · exact steady
  | back => exact navigate_steady explorer steady _ fun other moved => (History.back_frame _ other moved).1
  | forward => exact navigate_steady explorer steady _ fun other moved => (History.forward_frame _ other moved).1
  | _ => exact ⟨steady.filtering, steady.shaped⟩

-- A stale answer leaves nothing but its outcome.
theorem receive_stale (explorer : Explorer) (completion : Completion)
    (stale : explorer.controller.isStale completion.id) :
    explorer.receive completion = { explorer with lastOutcome := some .stale } := by
  have silent : explorer.controller.rendering? completion = none := if_pos stale
  unfold receive
  rw [Search.Controller.respond_stale _ _ stale, (Search.Controller.outcome_stale _ _).mpr stale, silent]

-- An answer leaves the history alone or adds an entry with a key.
theorem receive_pushes (explorer : Explorer) (completion : Completion) :
    (explorer.receive completion).view.history = explorer.view.history ∨
      ∃ key, key ≠ "" ∧ (explorer.receive completion).view.history = explorer.view.history.push (some key) := by
  unfold receive
  dsimp only
  split
  · exact .inl rfl
  · rename_i rendering _
    cases keyed : rendering.aspect.key? rendering.object with
    | none =>
        unfold View.render View.present
        rw [keyed]
        exact .inl rfl
    | some key => exact .inr ⟨key, key_present _ _ key keyed, render_history explorer.view rendering key keyed⟩

theorem receive_steady (explorer : Explorer) (steady : explorer.Steady) (completion : Completion) :
    (explorer.receive completion).Steady := by
  refine ⟨(Search.Controller.respond_frame explorer.controller completion).1.trans steady.filtering, ?_⟩
  rcases receive_pushes explorer completion with same | ⟨key, present, pushed⟩
  · exact same ▸ steady.shaped
  · exact pushed ▸ History.push_shaped _ steady.shaped key present

theorem receives_steady (answers : List Completion) (explorer : Explorer) (steady : explorer.Steady) :
    (answers.foldl receive explorer).Steady := by
  refine List.foldlRecOn (motive := Steady) answers _ steady ?_
  intro after before completion _
  exact receive_steady after before completion

theorem act_steady (explorer : Explorer) (steady : explorer.Steady) (action : Action) :
    (explorer.act action).Steady := by
  cases action with
  | load search now =>
      exact send_steady explorer _ steady _ (Search.Controller.load_sends explorer.controller search) rfl rfl
  | apply command time => exact apply_steady explorer steady command time
  | deliver completion =>
      unfold act deliver
      dsimp only
      split <;> exact ⟨steady.filtering, steady.shaped⟩
  | advance now =>
      have received := receives_steady explorer.inbox explorer steady
      exact ⟨received.filtering, received.shaped⟩
  | _ => exact ⟨steady.filtering, steady.shaped⟩

theorem reachable_steady (explorer : Explorer) (reachable : explorer.Reachable) : explorer.Steady := by
  obtain ⟨settleDelay, actions, same⟩ := reachable
  subst same
  refine List.foldlRecOn (motive := Steady) actions _ (start_steady settleDelay) ?_
  intro after before action _
  exact act_steady after before action

end Explorer
end ChainExplorer
