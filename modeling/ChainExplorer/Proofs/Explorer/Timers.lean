import ChainExplorer.Proofs.Explorer.Reachable
import ChainExplorer.Proofs.Formatter.Ownership

set_option autoImplicit false

namespace ChainExplorer.Explorer

-- The explorer with the answers that have arrived.
def answered (explorer : Explorer) : Explorer := explorer.inbox.foldl receive explorer

-- The formatter once it has noticed what the answers put on display.
def requested (explorer : Explorer) (now : Time) : Formatter :=
  explorer.formatter.requestEach now explorer.answered.view.rendered

-- What an action makes of the formatter.
def reformat (explorer : Explorer) : Action → Formatter
  | .load _ now => (explorer.formatter.request now none).1
  | .apply .resize now => (explorer.formatter.request now none).1
  | .apply .quit _ => explorer.formatter.dispose
  | .advance now => ((explorer.requested now).tick explorer.answered.view.results now).1.1
  | _ => explorer.formatter

theorem request_rendered_formatter (explorer : Explorer) (now : Time) :
    (explorer.receiveAll.noteClose.requestRendered now).formatter = explorer.requested now := by
  unfold requested
  rw [← receives_formatter explorer.inbox explorer]
  rfl

theorem act_formatter (explorer : Explorer) (action : Action) :
    (explorer.act action).formatter = explorer.reformat action := by
  cases action with
  | apply command time =>
      cases command with
      | quit => rfl
      | resize => rfl
      | _ => exact Session.apply_formatter explorer _ time (by simp)
  | deliver completion =>
      unfold act deliver
      dsimp only
      split <;> rfl
  | advance now =>
      have requested := request_rendered_formatter explorer now
      change ((explorer.receiveAll.noteClose.requestRendered now).formatter.tick _ now).1.1 = _
      rw [requested]
      rfl
  | _ => rfl

theorem act_accountable (explorer : Explorer) (accountable : explorer.formatter.Accountable []) (action : Action) :
    (explorer.act action).formatter.Accountable [] := by
  rw [act_formatter]
  unfold reformat
  split
  · exact Formatter.request_accountable _ _ none accountable
  · exact Formatter.request_accountable _ _ none accountable
  · exact (Formatter.dispose_empties _ accountable).2.1
  · exact Formatter.tick_accountable _ _ _ (Formatter.request_each_accountable _ _ _ accountable)
  · exact accountable

theorem acts_accountable (ignoreStale : Bool) (settleDelay : Time) (actions : List Action) :
    (actions.foldl act (start ignoreStale settleDelay)).formatter.Accountable [] := by
  refine List.foldlRecOn (motive := fun explorer : Explorer => explorer.formatter.Accountable []) actions _
    (Formatter.start_accountable settleDelay) ?_
  intro explorer before action _
  exact act_accountable explorer before action

theorem timers_have_one_owner (ignoreStale : Bool) (settleDelay : Time) (actions : List Action) :
    let explorer := actions.foldl act (start ignoreStale settleDelay)
    let formatter := explorer.formatter
    (∀ id, formatter.timers.isPending id ↔ formatter.global = some id ∨ id ∈ formatter.owned) ∧
      (∀ id, formatter.global = some id → id ∉ formatter.owned) ∧ formatter.owned.Nodup ∧
      (∀ id, formatter.timers.isPending id ↔ id ∈ formatter.timers.entries.map Timer.Entry.id) ∧
      (formatter.timers.entries.filter fun entry => entry.task = .globalPass).map Timer.Entry.id =
        formatter.global.toList ∧
      (∀ entry ∈ formatter.timers.entries, entry.task ≠ .globalPass → entry.id ∈ formatter.owned ∧
        ((∃ container, entry.task = .containerPass container) ∨ ∃ field, entry.task = .measure field)) ∧
      ∀ time,
        let left := (explorer.apply .quit time).1.formatter
        left.timers.entries = [] ∧ left.timers.isEmpty ∧ (∀ id, ¬ left.timers.isPending id) ∧
          ¬ left.hasPendingGlobal ∧ left.owned = [] := by
  intro explorer formatter
  have accountable := acts_accountable ignoreStale settleDelay actions
  have attributed := accountable.attributed
  have indexed := Timer.pending_iff formatter.timers accountable.consistent
  refine ⟨Formatter.pending_attributed formatter accountable, Formatter.global_not_owned _ _ _ attributed, ?_, indexed,
    Formatter.passes_named _ _ _ attributed, ?_, ?_⟩
  · exact (List.nodup_append.mp (Formatter.attributed_nodup _ _ _ attributed)).2.1
  · intro entry member other
    refine ⟨Formatter.owned_entry _ _ _ attributed entry member other, ?_⟩
    cases task : entry.task with
    | globalPass => exact absurd task other
    | containerPass container => exact .inl ⟨container, rfl⟩
    | measure field => exact .inr ⟨field, rfl⟩
  · intro time left
    obtain ⟨empty, disposed, free, ownsNothing⟩ := Formatter.dispose_empties formatter accountable
    have entries : left.timers.entries = [] := empty
    refine ⟨entries, by rw [Timer.Queue.isEmpty, entries]; rfl, ?_, ?_, ownsNothing⟩
    · intro id
      rw [Timer.pending_iff left.timers disposed.consistent, entries]
      exact List.not_mem_nil
    · have unnamed : left.global = none := free
      rw [Formatter.hasPendingGlobal, unnamed]
      decide

end ChainExplorer.Explorer
