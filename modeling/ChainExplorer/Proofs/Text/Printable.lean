import ChainExplorer.Text.Cluster
import ChainExplorer.Text.Lines

set_option autoImplicit false

namespace ChainExplorer.Text

def Printable (text : List Char) : Prop := ∀ c ∈ text, isPlainAscii c

instance (text : List Char) : Decidable (Printable text) := decidable_of_iff (text.all isPlainAscii) List.all_eq_true

theorem printable_range (c : Char) : isPlainAscii c ↔ 0x20 ≤ c.toNat ∧ c.toNat < 0x7F := by
  simp [isPlainAscii]

theorem printable_no_newline (c : Char) (plain : isPlainAscii c) : c ≠ '\n' := by
  rintro rfl
  exact absurd plain (by decide)

theorem spaces_printable (count : Nat) : Printable (List.replicate count ' ') := by
  intro c member
  rw [List.eq_of_mem_replicate member]
  rfl

-- The cluster of a printable character: nothing that follows belongs to it because of it.
def ClusterContext.plain : ClusterContext := ⟨.other, false, .none, .none⟩

theorem cluster_class_plain (c : Char) (plain : isPlainAscii c) : clusterClass c = .other := by
  rw [clusterClass, if_pos plain]

theorem plain_is_no_sign (c : Char) (plain : isPlainAscii c) :
    isConjunctConsonant c = false ∧ isWideRangePictograph c = false := by
  have range := (printable_range c).mp plain
  have low : ¬ 0x900 ≤ c.toNat ∧ ¬ 0xA9 ≤ c.toNat := by omega
  simp [isConjunctConsonant, isWideRangePictograph, low]

theorem next_plain (c : Char) (plain : isPlainAscii c) :
    ClusterContext.next none c = .plain ∧ ClusterContext.next (some .plain) c = .plain := by
  obtain ⟨consonant, pictograph⟩ := plain_is_no_sign c plain
  simp [ClusterContext.next, ClusterContext.plain, cluster_class_plain c plain, consonant, pictograph]

theorem plain_starts (c : Char) (plain : isPlainAscii c) : ClusterContext.plain.continues c = false := by
  obtain ⟨consonant, pictograph⟩ := plain_is_no_sign c plain
  simp [ClusterContext.continues, ClusterContext.plain, cluster_class_plain c plain, ClusterClass.isSeparator,
    ClusterClass.continuesSyllable]

theorem clusters_from_printable (c : Char) (text : List Char) (printable : Printable text) :
    clustersFrom .plain [c] text = (c :: text).map ([·]) := by
  induction text generalizing c with
  | nil => rfl
  | cons next rest ih =>
      obtain ⟨plain, others⟩ := List.forall_mem_cons.mp printable
      rw [clustersFrom, plain_starts next plain, if_neg Bool.false_ne_true, (next_plain next plain).2, ih next others]
      rfl

theorem clusters_printable (text : List Char) (printable : Printable text) : clusters text = text.map ([·]) := by
  cases text with
  | nil => rfl
  | cons c rest =>
      obtain ⟨plain, others⟩ := List.forall_mem_cons.mp printable
      rw [clusters, (next_plain c plain).1, clusters_from_printable c rest others]

theorem width_before_plain (c : Char) (plain : isPlainAscii c) : widthBefore c .plain = (1, .plain) := by
  have range := (printable_range c).mp plain
  have narrow : charWidth c = 1 := if_pos (by omega)
  have lead : leads c = .plain := by
    rw [leads, if_neg (printable_no_newline c plain), if_pos (by omega)]
  simp [widthBefore, narrow, lead]

theorem measure_printable (text : List Char) (printable : Printable text) :
    measure text = ((text.length : Int), Following.plain) := by
  induction text with
  | nil => rfl
  | cons c rest ih =>
      obtain ⟨plain, others⟩ := List.forall_mem_cons.mp printable
      rw [measure, ih others, width_before_plain c plain, List.length_cons, Int.natCast_succ, Int.add_comm]

theorem width_printable (text : List Char) (printable : Printable text) : width text = text.length := by
  rw [width, measure_printable text printable, Int.toNat_natCast]

theorem lines_behind_one (line text : List Char) (one : '\n' ∉ text) :
    linesBehind line text = if (line ++ text).isEmpty then [] else [line ++ text] := by
  induction text generalizing line with
  | nil => rw [linesBehind, List.append_nil]
  | cons c rest ih =>
      have other : c ≠ '\n' := fun same => one (same ▸ List.mem_cons_self)
      have behind : '\n' ∉ rest := fun member => one (List.mem_cons_of_mem c member)
      rw [linesBehind, if_neg other, ih (line ++ [c]) behind, List.append_assoc, List.singleton_append]

theorem joined_width_printable (text : String) (printable : Printable text.toList) :
    joinedWidth text = text.length := by
  have one : '\n' ∉ text.toList := fun member => printable_no_newline '\n' (printable '\n' member) rfl
  rw [joinedWidth, lines, lines_behind_one [] text.toList one, List.nil_append]
  by_cases bare : text.toList.isEmpty
  · rw [if_pos bare, ← String.length_toList, List.isEmpty_iff.mp bare]
    rfl
  · rw [if_neg bare, List.map_singleton, List.foldr_cons, List.foldr_nil, width_printable _ printable,
      String.length_toList, Nat.add_zero]

end ChainExplorer.Text
