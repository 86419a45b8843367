import ChainExplorer.Proofs.Explorer.Line
import Mathlib.Data.List.Induction

set_option autoImplicit false

namespace ChainExplorer

open Search (Controller Input Transform)

-- What is written on the line: a key leaves a text of some length, or another text takes its place.
inductive Writing where
  | typed (length : Nat)
  | replaced (text : String)
deriving DecidableEq

namespace Writing

def typed? : Writing → Option Nat
  | .typed length => some length
  | .replaced _ => none

-- The length that the last key left.
def lastTyped? (log : List Writing) : Option Nat := (log.filterMap typed?).getLast?

-- What the line holds after it has been written.
def Leaves (input : Input) : Option Writing → Prop
  | none => input.value = ""
  | some (.typed length) => input.length = length
  | some (.replaced text) => input.value = text

theorem last_typed_concat (log : List Writing) (last : Writing) :
    lastTyped? (log ++ [last]) = last.typed?.or (lastTyped? log) := by
  unfold lastTyped?
  rw [List.filterMap_append, List.getLast?_append]
  cases last <;> rfl

-- A key that is the last writing is the last key.
theorem last_typed (log : List Writing) (length : Nat) (last : log.getLast? = some (.typed length)) :
    lastTyped? log = some length := by
  obtain ⟨front, rfl⟩ := List.getLast?_eq_some_iff.mp last
  exact last_typed_concat front _

end Writing

namespace Explorer

def writings (explorer : Explorer) (action : Action) : List Writing :=
  match explorer.typed? action with
  | some _ => [.typed (explorer.act action).controller.input.length]
  | none => (explorer.replacement? action).toList.map .replaced

-- A line and the log of its writings.
structure Written (input : Input) (log : List Writing) : Prop where
  decided : input.transform = .upperCase ↔ Writing.lastTyped? log = some Hash.fullLength
  text : Writing.Leaves input log.getLast?

theorem type_written (controller : Controller) (key : Search.Key) (log : List Writing) :
    Written (controller.type key).1.input (log ++ [.typed (controller.type key).1.input.length]) := by
  constructor
  · rw [Writing.last_typed_concat, Controller.type_transform]
    change _ ↔ some _ = some _
    rw [Option.some.injEq]
    split <;> simp_all
  · rw [List.getLast?_concat]
    rfl

theorem search_written (controller : Controller) (text : String) (log : List Writing)
    (written : Written controller.input log) :
    Written (controller.search text).1.input (log ++ [.replaced text]) := by
  obtain ⟨value, transform⟩ := Controller.submit_line { controller with input := controller.input.setValue text }
  constructor
  · rw [Writing.last_typed_concat, Controller.search, transform]
    exact written.decided
  · rw [List.getLast?_concat]
    exact value

theorem act_written (explorer : Explorer) (action : Action) (log : List Writing)
    (written : Written explorer.controller.input log) :
    Written (explorer.act action).controller.input (log ++ explorer.writings action) := by
  unfold writings
  cases act_rewrites explorer action with
  | types key typed controller _ =>
      rw [typed, controller]
      exact type_written explorer.controller key log
  | replaces text untyped replaced controller _ =>
      rw [untyped, replaced, controller]
      exact search_written explorer.controller text log written
  | leaves untyped unreplaced value transform _ =>
      rw [untyped, unreplaced]
      change Written _ (log ++ [])
      rw [List.append_nil]
      refine ⟨transform ▸ written.decided, ?_⟩
      have text := written.text
      revert text
      unfold Writing.Leaves Input.length
      rw [value]
      exact id

theorem acts_written (ignoreStale : Bool) (settleDelay : Time) (actions : List Action) :
    Written (actions.foldl act (start ignoreStale settleDelay)).controller.input
      (along writings (start ignoreStale settleDelay) actions) := by
  induction actions using List.reverseRecOn with
  | nil => exact ⟨iff_of_false (fun impossible => nomatch impossible) (fun impossible => nomatch impossible), rfl⟩
  | append_singleton actions action ih =>
      rw [along_concat, List.foldl_append]
      exact act_written _ action _ ih

theorem display_written (input : Input) (log : List Writing) (written : Written input log) :
    input.display =
      if Writing.lastTyped? log = some Hash.fullLength then Text.upper input.value else input.value := by
  unfold Input.display
  cases form : input.transform with
  | upperCase => rw [if_pos (written.decided.mp form)]
  | asTyped =>
      have undecided : Writing.lastTyped? log ≠ some Hash.fullLength := by
        rw [ne_eq, ← written.decided, form]
        exact fun impossible => nomatch impossible
      rw [if_neg undecided]

-- As long as no other text has taken the place of what was typed, the last key has judged what the line holds.
theorem typed_display (input : Input) (log : List Writing) (written : Written input log)
    (unreplaced : ∀ text, log.getLast? ≠ some (.replaced text)) (other : input.length ≠ Hash.fullLength) :
    input.display = input.value := by
  have undecided : Writing.lastTyped? log ≠ some Hash.fullLength := by
    intro decided
    have text := written.text
    cases last : log.getLast? with
    | none =>
        rw [List.getLast?_eq_none_iff.mp last] at decided
        cases decided
    | some writing =>
        cases writing with
        | typed length =>
            rw [last] at text
            rw [Writing.last_typed log length last] at decided
            exact other (text.trans (Option.some.inj decided))
        | replaced text => exact unreplaced text last
  rw [display_written input log written, if_neg undecided]

theorem replaced_display (input : Input) (log : List Writing) (written : Written input log) :
    input.length ≠ Hash.fullLength ∧ input.display ≠ input.value ↔
      ∃ text, log.getLast? = some (.replaced text) ∧ text.length ≠ Hash.fullLength ∧ Text.upper text ≠ text ∧
        Writing.lastTyped? log = some Hash.fullLength := by
  have display := display_written input log written
  have held (text : String) (last : log.getLast? = some (.replaced text)) : input.value = text := by
    have left := written.text
    rwa [last] at left
  constructor
  · rintro ⟨other, different⟩
    have decided : Writing.lastTyped? log = some Hash.fullLength := by
      by_contra undecided
      exact different (display.trans (if_neg undecided))
    have replaced : ∃ text, log.getLast? = some (.replaced text) := by
      by_contra typed
      exact different (typed_display input log written (not_exists.mp typed) other)
    obtain ⟨text, last⟩ := replaced
    rw [display, if_pos decided, held text last] at different
    exact ⟨text, last, held text last ▸ other, different, decided⟩
  · rintro ⟨text, last, other, changes, decided⟩
    rw [display, if_pos decided, Input.length, held text last]
    exact ⟨other, changes⟩

theorem upper_case_is_decided_by_keys (ignoreStale : Bool) (settleDelay : Time) (actions : List Action) :
    let input := (actions.foldl act (start ignoreStale settleDelay)).controller.input
    let log := along writings (start ignoreStale settleDelay) actions
    Writing.Leaves input log.getLast? ∧
      input.display =
        (if Writing.lastTyped? log = some Hash.fullLength then Text.upper input.value else input.value) ∧
      ((∀ text, log.getLast? ≠ some (.replaced text)) → input.length ≠ Hash.fullLength →
        input.display = input.value) ∧
      (input.length ≠ Hash.fullLength ∧ input.display ≠ input.value ↔
        ∃ text, log.getLast? = some (.replaced text) ∧ text.length ≠ Hash.fullLength ∧ Text.upper text ≠ text ∧
          Writing.lastTyped? log = some Hash.fullLength) := by
  intro input log
  have written : Written input log := acts_written ignoreStale settleDelay actions
  exact ⟨written.text, display_written input log written, typed_display input log written,
    replaced_display input log written⟩

-- An address is on display when a character completes a text of 64; Back and Forward put the address in its
-- place.
def replaying : List Action :=
  [.load (some "00000000000000000024fb37364cbf81fd49cc2d51c09c75c35433c3a1945d0") 0,
    .deliver ⟨1, .success .address
      (.object [("base58CheckEncoded", .string "1BoatSLRHtKNngkdXEeobR76b53LETtpyT")])⟩,
    .advance 0, .apply .focus 0, .apply (.key .toEnd) 0, .apply (.key (.char '4')) 0, .apply .back 0,
    .apply .forward 0]

theorem replayed_address_is_upper_cased :
    ¬ ∀ (ignoreStale : Bool) (settleDelay : Time) (actions : List Action),
      let input := (actions.foldl act (start ignoreStale settleDelay)).controller.input
      input.length ≠ Hash.fullLength → input.display = input.value := by
  intro claim
  have same := claim false 200 replaying (by decide +kernel)
  revert same
  decide +kernel

end Explorer
end ChainExplorer
