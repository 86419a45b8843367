import ChainExplorer.Proofs.Url.Percent
import ChainExplorer.Url.Reference

set_option autoImplicit false

namespace ChainExplorer.Url

theorem split_on_pieces (mark : Char) (text : List Char) :
    ∀ piece ∈ text.splitOn mark, ∀ c ∈ piece, c ∈ text ∧ c ≠ mark := by
  induction text with
  | nil => simp [List.splitOn_nil]
  | cons head rest ih =>
      intro piece member c inside
      rw [List.splitOn, List.splitOnP_cons_eq_if_modifyHead] at member
      by_cases same : (head == mark) = true
      · rw [if_pos same] at member
        rcases List.mem_cons.mp member with rfl | later
        · cases inside
        · exact (ih piece later c inside).imp_left (List.mem_cons_of_mem _)
      · rw [if_neg same] at member
        obtain ⟨first, others, split⟩ := List.exists_cons_of_ne_nil (List.splitOnP_ne_nil (· == mark) rest)
        rw [split, List.modifyHead_cons] at member
        have pieces : rest.splitOn mark = first :: others := split
        rw [pieces] at ih
        rcases List.mem_cons.mp member with rfl | later
        · rcases List.mem_cons.mp inside with rfl | within
          · exact ⟨List.mem_cons_self, fun equal => same (beq_iff_eq.mpr equal)⟩
          · exact (ih first List.mem_cons_self c within).imp_left (List.mem_cons_of_mem _)
        · exact (ih piece (List.mem_cons_of_mem _ later) c inside).imp_left (List.mem_cons_of_mem _)

namespace Path

-- What may stand in a segment once a path has been read.
def Encoded (segment : List Char) : Prop := ∀ c ∈ segment, mustEncode .path c = false ∧ c ≠ '/' ∧ c ≠ '\\'

structure Settled (segment : List Char) : Prop where
  encoded : Encoded segment
  oneDot : isDot segment = false
  twoDots : isTwoDots segment = false

theorem empty_settled : Settled [] := ⟨fun _ member => absurd member List.not_mem_nil, rfl, rfl⟩

theorem segments_encoded (text : List Char) :
    ∀ segment ∈ (segments true text).map (percentEncode .path), Encoded segment := by
  intro segment member c inside
  obtain ⟨source, listed, rfl⟩ := List.mem_map.mp member
  have pieces := split_on_pieces '/' _ source listed
  have digitless (mark : Char) (other : mark = '/' ∨ mark = '\\') (value : Nat) : ¬ Json.HexDigit value mark := by
    intro digit
    have range := hex_digit_range value mark digit
    rcases other with rfl | rfl
    · exact absurd range (by decide)
    · exact absurd range (by decide)
  refine ⟨percent_encode_spares _ path_spares_escapes source c inside, ?_, ?_⟩
  · rintro rfl
    have absent : '/' ∉ source := fun slash => (pieces '/' slash).2 rfl
    exact percent_encode_absent _ source '/' absent (by decide) (digitless '/' (.inl rfl)) inside
  · rintro rfl
    refine percent_encode_absent _ source '\\' (fun slash => ?_) (by decide) (digitless '\\' (.inr rfl)) inside
    obtain ⟨mark, _, same⟩ := List.mem_map.mp (pieces '\\' slash).1
    by_cases backslash : (mark == '\\') = true
    · simp [backslash] at same
    · simp only [Bool.true_and, if_neg backslash] at same
      exact backslash (beq_iff_eq.mpr same)

theorem parent_subset (place : List (List Char)) : parent place ⊆ place := by
  unfold parent
  split
  · exact List.nil_subset _
  · split
    · exact List.Subset.refl _
    · exact List.dropLast_subset _

theorem follow_settled (steps place : List (List Char)) (placed : ∀ segment ∈ place, Settled segment)
    (encoded : ∀ segment ∈ steps, Encoded segment) : ∀ segment ∈ follow place steps, Settled segment := by
  induction steps generalizing place with
  | nil => exact placed
  | cons step rest ih =>
      obtain ⟨first, others⟩ := List.forall_mem_cons.mp encoded
      have above : ∀ segment ∈ parent place, Settled segment := fun segment member =>
        placed segment (parent_subset place member)
      have added (front : List (List Char)) (each : ∀ segment ∈ front, Settled segment) (last : List Char)
          (settled : Settled last) : ∀ segment ∈ front ++ [last], Settled segment := by
        intro segment member
        rcases List.mem_append.mp member with before | here
        · exact each segment before
        · exact List.mem_singleton.mp here ▸ settled
      cases rest with
      | nil =>
          rw [follow]
          split
          · exact added _ above [] empty_settled
          · split
            · exact added _ placed [] empty_settled
            · rename_i up here
              exact added _ placed step ⟨first, Bool.eq_false_iff.mpr here, Bool.eq_false_iff.mpr up⟩
      | cons next more =>
          rw [follow]
          · split
            · exact ih _ above others
            · split
              · exact ih _ placed others
              · rename_i up here
                exact ih _ (added _ placed step ⟨first, Bool.eq_false_iff.mpr here, Bool.eq_false_iff.mpr up⟩) others
          · exact List.cons_ne_nil _ _

theorem follow_somewhere (steps place : List (List Char)) (moves : steps ≠ []) : follow place steps ≠ [] := by
  induction steps generalizing place with
  | nil => exact absurd rfl moves
  | cons step rest ih =>
      cases rest with
      | nil =>
          rw [follow]
          split
          · exact List.concat_ne_nil _ _
          · split <;> exact List.concat_ne_nil _ _
      | cons next more =>
          rw [follow]
          · split
            · exact ih _ (List.cons_ne_nil _ _)
            · split <;> exact ih _ (List.cons_ne_nil _ _)
          · exact List.cons_ne_nil _ _

-- Segments that are no dots are followed one by one.
theorem follow_settled_steps (steps place : List (List Char)) (settled : ∀ segment ∈ steps, Settled segment) :
    follow place steps = place ++ steps := by
  induction steps generalizing place with
  | nil => exact (List.append_nil place).symm
  | cons step rest ih =>
      obtain ⟨first, others⟩ := List.forall_mem_cons.mp settled
      have stays : ¬ isTwoDots step = true := by simp [first.twoDots]
      have here : ¬ isDot step = true := by simp [first.oneDot]
      cases rest with
      | nil => rw [follow, if_neg stays, if_neg here]
      | cons next more =>
          rw [follow, if_neg stays, if_neg here, ih _ others, List.append_assoc, List.singleton_append]
          exact List.cons_ne_nil _ _

-- A path as it is once it has been read.
def Normal (path : List Char) : Prop :=
  ∃ first rest, (∀ segment ∈ first :: rest, Settled segment) ∧ path = text (first :: rest)

theorem text_append (front back : List (List Char)) : text (front ++ back) = text front ++ text back :=
  List.flatMap_append

-- The text of segments behind its first slash splits into these segments.
theorem text_splits (first : List Char) (rest : List (List Char))
    (settled : ∀ segment ∈ first :: rest, Settled segment) :
    (first ++ text rest).splitOn '/' = first :: rest := by
  have whole (segment : List Char) (known : Settled segment) : '/' ∉ segment := fun slash =>
    (known.encoded '/' slash).2.1 rfl
  induction rest generalizing first with
  | nil =>
      rw [text, List.flatMap_nil, List.append_nil]
      exact List.splitOnP_eq_singleton fun c member => by
        simpa using fun same : c = '/' => whole first (settled first List.mem_cons_self) (same ▸ member)
  | cons next more ih =>
      obtain ⟨known, others⟩ := List.forall_mem_cons.mp settled
      rw [text, List.flatMap_cons, List.cons_append, List.splitOn_append_cons_self_of_not_mem (whole first known)]
      exact congrArg _ (ih next others)

theorem text_segments (first : List Char) (rest : List (List Char))
    (settled : ∀ segment ∈ first :: rest, Settled segment) :
    segments true (first ++ text rest) = first :: rest := by
  have straight : ∀ c ∈ first ++ text rest, c ≠ '\\' := by
    intro c member
    rcases List.mem_append.mp member with front | back
    · exact ((settled first List.mem_cons_self).encoded c front).2.2
    · obtain ⟨segment, listed, inside⟩ := List.mem_flatMap.mp back
      rcases List.mem_cons.mp inside with rfl | within
      · decide
      · exact ((settled segment (List.mem_cons_of_mem _ listed)).encoded c within).2.2
  have same : (first ++ text rest).map (fun c => if true && c == '\\' then '/' else c) = first ++ text rest := by
    refine (List.map_congr_left fun c member => ?_).trans (List.map_id _)
    simp [straight c member]
  rw [segments, same, text_splits first rest settled]

theorem settled_encoded (segments : List (List Char)) (settled : ∀ segment ∈ segments, Settled segment) :
    segments.map (percentEncode .path) = segments := by
  refine (List.map_congr_left fun segment member => ?_).trans (List.map_id _)
  exact percent_encode_fixed _ segment fun c inside => ((settled segment member).encoded c inside).1

theorem read_path_normal (text : List Char) : Normal (readPath true text) := by
  have parsed (source : List Char) : Normal (parse true source) := by
    have settled := follow_settled _ [] (fun _ member => nomatch member) (segments_encoded source)
    have somewhere : (segments true source).map (percentEncode .path) ≠ [] := by
      rw [ne_eq, List.map_eq_nil_iff]
      exact List.splitOnP_ne_nil _ _
    obtain ⟨first, rest, same⟩ := List.exists_cons_of_ne_nil (follow_somewhere _ [] somewhere)
    refine ⟨first, rest, same ▸ settled, ?_⟩
    rw [parse, same]
  cases text with
  | nil => exact ⟨[], [], by simpa using empty_settled, rfl⟩
  | cons c rest => exact parsed _

theorem normal_reads_itself (path : List Char) (normal : Normal path) : readPath true path = path := by
  obtain ⟨first, rest, settled, rfl⟩ := normal
  have reads : readPath true (text (first :: rest)) = parse true (first ++ text rest) := rfl
  rw [reads, parse, text_segments first rest settled, settled_encoded _ settled, follow_settled_steps _ [] settled,
    List.nil_append]

theorem normal_slash (path : List Char) (normal : Normal path) : Normal (path ++ ['/']) := by
  obtain ⟨first, rest, settled, rfl⟩ := normal
  refine ⟨first, rest ++ [[]], ?_, by rw [← List.cons_append, text_append]; rfl⟩
  intro segment member
  rcases List.mem_append.mp (List.cons_append ▸ member : segment ∈ (first :: rest) ++ [[]]) with front | last
  · exact settled segment front
  · exact List.mem_singleton.mp last ▸ empty_settled

theorem normal_encoded (path : List Char) (normal : Normal path) : ∀ c ∈ path, mustEncode .path c = false := by
  obtain ⟨first, rest, settled, rfl⟩ := normal
  intro c member
  obtain ⟨segment, listed, inside⟩ := List.mem_flatMap.mp member
  rcases List.mem_cons.mp inside with rfl | within
  · decide
  · exact ((settled segment listed).encoded c within).1

theorem normal_directory (path : List Char) (normal : Normal path) (ends : path.getLast? = some '/') :
    path = text (directory path) ++ ['/'] ∧ ∀ segment ∈ directory path, Settled segment := by
  obtain ⟨first, rest, settled, rfl⟩ := normal
  have splits : directory (text (first :: rest)) = (first :: rest).dropLast := by
    rw [directory, text, List.flatMap_cons, List.cons_append, List.drop_one, List.tail_cons]
    exact congrArg _ (text_splits first rest settled)
  rw [splits]
  refine ⟨?_, fun segment member => settled segment (List.dropLast_subset _ member)⟩
  obtain ⟨front, last, same⟩ := (List.eq_nil_or_concat' (first :: rest)).resolve_left (List.cons_ne_nil _ _)
  rw [same] at settled ends ⊢
  rw [List.dropLast_concat, text_append]
  have empty : last = [] := by
    rcases List.eq_nil_or_concat' last with nothing | ⟨body, c, rfl⟩
    · exact nothing
    · rw [text_append, text, text, List.flatMap_singleton, ← List.cons_append, ← List.append_assoc,
        List.getLast?_concat] at ends
      have known := settled (body ++ [c]) (List.mem_append_right _ List.mem_cons_self)
      exact absurd (Option.some.inj ends) (known.encoded c (List.mem_append_right _ List.mem_cons_self)).2.1
  rw [empty]
  rfl

end Path

-- What is followed from a path that ends in a slash is put behind it.
theorem join_behind (base : Url) (special : isSpecial base.scheme = true) (normal : Path.Normal base.path)
    (ends : base.path.getLast? = some '/') (first : List Char) (rest : List (List Char))
    (settled : ∀ segment ∈ first :: rest, Path.Settled segment) :
    (base.join (first ++ Path.text rest)).path = base.path ++ (first ++ Path.text rest) := by
  obtain ⟨same, placed⟩ := Path.normal_directory base.path normal ends
  rw [join, special, Path.text_segments first rest settled, Path.settled_encoded _ settled,
    Path.follow_settled_steps _ _ settled, Path.text_append]
  conv => rhs; rw [same]
  rw [List.append_assoc]
  rfl

end ChainExplorer.Url
