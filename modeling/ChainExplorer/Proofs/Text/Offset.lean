import ChainExplorer.Text.Offset

set_option autoImplicit false

namespace ChainExplorer.Text

@[simp]
theorem byte_length_cons (c : Char) (text : List Char) : byteLength (c :: text) = c.utf8Size + byteLength text := rfl

@[simp]
theorem byte_length_append (a b : List Char) : byteLength (a ++ b) = byteLength a + byteLength b := by
  induction a with
  | nil => simp [byteLength]
  | cons c rest ih => rw [List.cons_append, byte_length_cons, ih, byte_length_cons, Nat.add_assoc]

theorem byte_length_utf8 (text : List Char) : byteLength text = (String.ofList text).utf8ByteSize := by
  induction text with
  | nil => rfl
  | cons c rest ih =>
      have split : String.ofList (c :: rest) = String.singleton c ++ String.ofList rest := by
        rw [String.singleton_eq_ofList, ← String.ofList_append, List.singleton_append]
      rw [byte_length_cons, ih, split, String.utf8ByteSize_append, String.utf8ByteSize_singleton]

theorem placed_at (start index : Nat) (text : List Char) :
    (placed start text)[index]? = text[index]?.map fun c => (start + byteLength (text.take index), c) := by
  induction text generalizing start index with
  | nil => rfl
  | cons c rest ih =>
      cases index with
      | zero => rfl
      | succ index =>
          rw [placed, List.getElem?_cons_succ, ih, List.getElem?_cons_succ, List.take_succ_cons, byte_length_cons]
          simp only [Nat.add_assoc]

theorem placed_concat (start : Nat) (text : List Char) (c : Char) :
    placed start (text ++ [c]) = placed start text ++ [(start + byteLength text, c)] := by
  induction text generalizing start with
  | nil => rfl
  | cons first rest ih =>
      rw [List.cons_append, placed, ih, placed, byte_length_cons, Nat.add_assoc, List.cons_append]

theorem cut_append (before after : List Char) : cut? (byteLength before) (before ++ after) = some (before, after) := by
  induction before with
  | nil => cases after <;> rfl
  | cons c rest ih =>
      have inside : 0 < byteLength (c :: rest) := Nat.add_pos_left c.utf8Size_pos _
      obtain ⟨size, same⟩ := Nat.exists_eq_succ_of_ne_zero (Nat.ne_of_gt inside)
      rw [byte_length_cons] at same
      have fits : c.utf8Size ≤ size + 1 := by omega
      have left : size + 1 - c.utf8Size = byteLength rest := by omega
      rw [byte_length_cons, same, List.cons_append, cut?, if_pos fits, left, ih]
      rfl

theorem cut_pieces (place : Nat) (text before after : List Char) (cuts : cut? place text = some (before, after)) :
    text = before ++ after ∧ place = byteLength before := by
  induction text generalizing place before with
  | nil =>
      cases place with
      | zero =>
          cases cuts
          exact ⟨rfl, rfl⟩
      | succ place => cases cuts
  | cons c rest ih =>
      cases place with
      | zero =>
          cases cuts
          exact ⟨rfl, rfl⟩
      | succ place =>
          by_cases fits : c.utf8Size ≤ place + 1
          · rw [cut?, if_pos fits] at cuts
            obtain ⟨⟨front, back⟩, inner, same⟩ := Option.map_eq_some_iff.mp cuts
            cases same
            obtain ⟨pieces, size⟩ := ih _ front inner
            refine ⟨by rw [pieces, List.cons_append], ?_⟩
            rw [byte_length_cons, ← size]
            omega
          · rw [cut?, if_neg fits] at cuts
            cases cuts

theorem cut_valid (place : Nat) (text : String) :
    (cut? place text.toList).isSome ↔ (String.Pos.Raw.mk place).IsValid text := by
  rw [Option.isSome_iff_exists, String.Pos.Raw.isValid_iff_exists_append]
  constructor
  · rintro ⟨⟨before, after⟩, cuts⟩
    obtain ⟨pieces, size⟩ := cut_pieces place text.toList before after cuts
    refine ⟨String.ofList before, String.ofList after, ?_, ?_⟩
    · rw [← String.ofList_append, ← pieces, String.ofList_toList]
    · rw [size, byte_length_utf8]
      rfl
  · rintro ⟨before, after, rfl, same⟩
    have size : place = byteLength before.toList := by
      rw [byte_length_utf8, String.ofList_toList]
      exact congrArg String.Pos.Raw.byteIdx same
    refine ⟨(before.toList, after.toList), ?_⟩
    rw [size, String.toList_append, cut_append]

end ChainExplorer.Text
