import ChainExplorer.Toml.Printer
import ChainExplorer.Toml.Text
import Mathlib.Data.List.Basic

set_option autoImplicit false

namespace ChainExplorer.Toml

-- How a character stands in a basic string, the end of a line apart.
inductive Spells (c : Char) : List Char → Prop where
  | plain (free : c ≠ '"' ∧ c ≠ '\\') (printable : isPrintable c) : Spells c [c]
  | short (mark : Char) (means : escaped? mark = some c) : Spells c ['\\', mark]
  | code (a b d e : Char) (means : coded? [a, b, d, e] = some c) : Spells c ['\\', 'u', a, b, d, e]

theorem no_carriage (c : Char) (shown : isPrintable c ∨ c = '\n') : c ≠ '\r' := by
  cases shown with
  | inl printable => exact fun same => by simp [same, isPrintable] at printable
  | inr line => exact line ▸ by decide

theorem short_marked (mark c : Char) (means : escaped? mark = some c) :
    mark ∈ ['b', 't', 'n', 'f', 'r', '"', '\\'] := by
  unfold escaped? at means
  split_ifs at means <;> simp_all

theorem spells_head (c head : Char) (piece : List Char) (spelled : Spells c piece) (leads : piece.head? = some head) :
    head ≠ '"' ∧ head ≠ '\n' ∧ head ≠ '\r' := by
  cases spelled with
  | plain free printable =>
      obtain rfl := Option.some.inj leads
      exact ⟨free.1, fun line => by simp [line, isPrintable] at printable, no_carriage c (.inl printable)⟩
  | short mark means => exact Option.some.inj leads ▸ by decide
  | code a b d e means => exact Option.some.inj leads ▸ by decide

theorem spelled_some (c : Char) (piece : List Char) (spelled : Spells c piece) : piece ≠ [] := by
  cases spelled <;> exact List.cons_ne_nil _ _

theorem basic_spelled (c : Char) (piece rest : List Char) (spelled : Spells c piece) :
    basic? (piece ++ rest) = before? (some c) (basic? rest) := by
  cases spelled with
  | plain free printable =>
      rw [List.singleton_append, basic?]
      · simp [printable, free.2]
      all_goals simp [free]
  | short mark means =>
      have marked := short_marked mark c means
      rw [List.cons_append, List.singleton_append, basic?, means]
      all_goals grind
  | code a b d e means =>
      change basic? ('\\' :: 'u' :: a :: b :: d :: e :: rest) = _
      rw [basic?, means]

theorem lines_spelled (c : Char) (piece rest : List Char) (spelled : Spells c piece) :
    basicLines? .no (piece ++ rest) = before? (some c) (basicLines? .no rest) := by
  cases spelled with
  | plain free printable =>
      have carriage := no_carriage c (.inl printable)
      rw [List.singleton_append, basicLines?]
      · simp [printable, free.2]
      all_goals simp [free, carriage]
  | short mark means =>
      have marked := short_marked mark c means
      rw [List.cons_append, List.singleton_append, basicLines?, means]
      all_goals grind
  | code a b d e means =>
      change basicLines? .no ('\\' :: 'u' :: a :: b :: d :: e :: rest) = _
      rw [basicLines?, means]
      simp

theorem lines_line_end (rest : List Char) :
    basicLines? .no ('\n' :: rest) = before? (some '\n') (basicLines? .no rest) := by
  rw [basicLines?]
  all_goals simp

theorem code_written (n : Nat) (bound : n < 0x20 ∨ n = 0x7F) :
    coded? ['0', '0', Number.upperHexDigit (n / 16), Number.upperHexDigit (n % 16)] = some (Char.ofNat n) := by
  have small : ∀ m < 0x80, coded? ['0', '0', Number.upperHexDigit (m / 16), Number.upperHexDigit (m % 16)]
      = some (Char.ofNat m) := by decide
  exact small n (by omega)

theorem escape_spells (c : Char) (quote : c ≠ '"') (line : c ≠ '\n') : Spells c ((escape? c).getD [c]) := by
  unfold escape?
  split_ifs with back tab form carriage backslash control
  · exact back ▸ .short 'b' rfl
  · exact tab ▸ .short 't' rfl
  · exact form ▸ .short 'f' rfl
  · exact carriage ▸ .short 'r' rfl
  · exact backslash ▸ .short '\\' rfl
  · refine .code _ _ _ _ ?_
    rw [code_written c.toNat (control.imp_left And.left), Char.ofNat_toNat]
  · refine .plain ⟨quote, backslash⟩ ?_
    simp only [not_or, not_and] at control
    simp only [isPrintable, Bool.or_eq_true, Bool.and_eq_true, decide_eq_true_eq, bne_iff_ne]
    exact .inr ⟨Nat.le_of_not_lt fun low => control.1 low line, control.2⟩

-- A character is spelled, or it is a quote or a line end that may stand bare.
theorem basic_body_step (lines : Bool) (allowed run : Nat) (c : Char) (text : List Char) :
    (∃ written, Spells c written ∧
      basicBody lines allowed run (c :: text) = written ++ basicBody lines allowed 0 text) ∨
    (c = '"' ∧ run < allowed ∧
      basicBody lines allowed run (c :: text) = '"' :: basicBody lines allowed (run + 1) text) ∨
    (c = '\n' ∧ lines = true ∧
      basicBody lines allowed run (c :: text) = '\n' :: basicBody lines allowed 0 text) := by
  by_cases quote : c = '"'
  · by_cases full : allowed < run + 1
    · exact .inl ⟨['\\', '"'], quote ▸ .short '"' rfl, by simp [basicBody, quote, full]⟩
    · exact .inr (.inl ⟨quote, by omega, by simp [basicBody, quote, full]⟩)
  by_cases line : c = '\n'
  · cases lines with
    | true =>
        have bare : escape? '\n' = none := rfl
        exact .inr (.inr ⟨line, rfl, by simp [basicBody, line, bare]⟩)
    | false => exact .inl ⟨['\\', 'n'], line ▸ .short 'n' rfl, by simp [basicBody, line]⟩
  refine .inl ⟨_, escape_spells c quote line, ?_⟩
  cases found : escape? c <;> simp [basicBody, quote, line, found]

theorem basic_written (text rest : List Char) :
    basic? (basicBody false 0 0 text ++ '"' :: rest) = some (text, rest) := by
  induction text with
  | nil => rw [basicBody, List.nil_append, basic?]
  | cons c text ih =>
      obtain ⟨written, spelled, step⟩ | ⟨_, few, _⟩ | ⟨_, lines, _⟩ := basic_body_step false 0 0 c text
      · rw [step, List.append_assoc, basic_spelled c written _ spelled, ih, before?]
      · exact absurd few (Nat.not_lt_zero 0)
      · exact absurd lines Bool.false_ne_true

theorem basic_body_head (lines : Bool) (allowed run : Nat) (text : List Char) (head : Char)
    (leads : (basicBody lines allowed run text).head? = some head) :
    head ≠ '\r' ∧ (head = '"' → run < allowed) ∧ (head = '\n' → '\n' ∈ text) := by
  cases text with
  | nil => simp [basicBody] at leads
  | cons c text =>
      obtain ⟨written, spelled, step⟩ | ⟨_, few, step⟩ | ⟨line, _, step⟩ := basic_body_step lines allowed run c text
      · rw [step, List.head?_append_of_ne_nil _ (spelled_some c written spelled)] at leads
        obtain ⟨quote, line, carriage⟩ := spells_head c head written spelled leads
        exact ⟨carriage, fun same => absurd same quote, fun same => absurd same line⟩
      · rw [step] at leads
        exact Option.some.inj leads ▸ ⟨by decide, fun _ => few, nofun⟩
      · rw [step] at leads
        exact Option.some.inj leads ▸ ⟨by decide, nofun, fun _ => line ▸ List.mem_cons_self⟩

-- What a reader does at the quotes of a string of several lines: three of them close it, up to two may stand before
-- those, and fewer stand for themselves.
structure Fenced (quote : Char) (read : List Char → Option (List Char × List Char)) : Prop where
  inner (rest : List Char) (apart : ¬ [quote, quote] <+: rest) :
    read (quote :: rest) = before? (some quote) (read rest)
  close (rest : List Char) (apart : rest.head? ≠ some quote) :
    read ([quote, quote, quote] ++ rest) = some ([], rest)
  closeAfterOne (rest : List Char) (apart : rest.head? ≠ some quote) :
    read (quote :: ([quote, quote, quote] ++ rest)) = some ([quote], rest)
  closeAfterTwo (rest : List Char) :
    read (quote :: quote :: ([quote, quote, quote] ++ rest)) = some ([quote, quote], rest)

theorem basic_lines_fenced : Fenced '"' (basicLines? .no) where
  inner rest apart := by
    rw [basicLines?]
    · rfl
    all_goals simp
    all_goals grind
  close rest apart := by
    change basicLines? .no ('"' :: '"' :: '"' :: rest) = _
    rw [basicLines?]
    all_goals simp
    all_goals grind
  closeAfterOne rest apart := by
    change basicLines? .no ('"' :: '"' :: '"' :: '"' :: rest) = _
    rw [basicLines?]
    all_goals simp
    all_goals grind
  closeAfterTwo rest := by
    change basicLines? .no ('"' :: '"' :: '"' :: '"' :: '"' :: rest) = _
    rw [basicLines?]
    all_goals simp

theorem literal_lines_fenced : Fenced '\'' literalLines? where
  inner rest apart := by
    rw [literalLines?]
    · rfl
    all_goals simp
    all_goals grind
  close rest apart := by
    change literalLines? ('\'' :: '\'' :: '\'' :: rest) = _
    rw [literalLines?]
    all_goals simp
    all_goals grind
  closeAfterOne rest apart := by
    change literalLines? ('\'' :: '\'' :: '\'' :: '\'' :: rest) = _
    rw [literalLines?]
    all_goals simp
    all_goals grind
  closeAfterTwo rest := by
    change literalLines? ('\'' :: '\'' :: '\'' :: '\'' :: '\'' :: rest) = _
    rw [literalLines?]

-- A body that a reader takes for a text character by character, with no more than two bare quotes side by side;
-- `run` of them stand before.
inductive Stands (quote : Char) (read : List Char → Option (List Char × List Char)) :
    Nat → List Char → List Char → Prop where
  | nil (run : Nat) : Stands quote read run [] []
  | quote (run : Nat) (body text : List Char) (few : run < 2) (behind : Stands quote read (run + 1) body text) :
      Stands quote read run (quote :: body) (quote :: text)
  | piece (run : Nat) (c head : Char) (tail body text : List Char) (apart : head ≠ quote)
      (reads : ∀ rest, read ((head :: tail) ++ rest) = before? (some c) (read rest))
      (behind : Stands quote read 0 body text) : Stands quote read run ((head :: tail) ++ body) (c :: text)

-- Behind a quote the body ends, goes on with something else, or has one more quote and then either.
theorem fenced_read (quote : Char) (read : List Char → Option (List Char × List Char)) (fenced : Fenced quote read)
    (run : Nat) (body text rest : List Char) (stands : Stands quote read run body text)
    (apart : rest.head? ≠ some quote) : read (body ++ ([quote, quote, quote] ++ rest)) = some (text, rest) := by
  induction stands with
  | nil run => exact fenced.close rest apart
  | piece run c head tail body text aside reads behind ih => rw [List.append_assoc, reads, ih, before?]
  | quote run body text few behind ih =>
      cases behind with
      | nil => exact fenced.closeAfterOne rest apart
      | piece _ c head tail body text aside reads behind =>
          rw [List.cons_append, fenced.inner _ (by simp [aside.symm]), ih, before?]
      | quote _ body text fewer behind =>
          cases behind with
          | nil => exact fenced.closeAfterTwo rest
          | piece _ c head tail body text aside reads behind =>
              rw [List.cons_append, fenced.inner _ (by simp [aside.symm]), ih, before?]
          | quote _ body text least behind => omega

theorem basic_lines_stand (run : Nat) (text : List Char) :
    Stands '"' (basicLines? .no) run (basicBody true 2 run text) text := by
  induction text generalizing run with
  | nil => exact .nil run
  | cons c text ih =>
      obtain ⟨written, spelled, step⟩ | ⟨quote, few, step⟩ | ⟨line, _, step⟩ := basic_body_step true 2 run c text
      · rw [step]
        cases written with
        | nil => cases spelled
        | cons head tail =>
            exact .piece run c head tail _ text (spells_head c head _ spelled rfl).1
              (fun rest => lines_spelled c _ rest spelled) (ih 0)
      · rw [step, quote]
        exact .quote run _ text few (ih (run + 1))
      · rw [step, line]
        exact .piece run '\n' '\n' [] _ text (by decide) lines_line_end (ih 0)

def countRun (c : Char) (state : Nat × Nat) (d : Char) : Nat × Nat :=
  if d = c then (state.1 + 1, max state.2 (state.1 + 1)) else (0, state.2)

theorem longest_run_counted (c : Char) (text : List Char) :
    longestRun c text = (text.foldl (countRun c) (0, 0)).2 := rfl

theorem counted_grows (c : Char) (state : Nat × Nat) (text : List Char) :
    state.2 ≤ (text.foldl (countRun c) state).2 := by
  induction text generalizing state with
  | nil => exact Nat.le_refl _
  | cons d text ih =>
      have step : state.2 ≤ (countRun c state d).2 := by
        by_cases same : d = c
        · rw [countRun, if_pos same]
          exact Nat.le_max_left _ _
        · simp [countRun, same]
      exact Nat.le_trans step (ih _)

theorem counted_member (c : Char) (state : Nat × Nat) (text : List Char) (member : c ∈ text) :
    0 < (text.foldl (countRun c) state).2 := by
  induction text generalizing state with
  | nil => exact absurd member List.not_mem_nil
  | cons d text ih =>
      by_cases same : d = c
      · have grows := counted_grows c (countRun c state d) text
        simp [countRun, same] at grows ⊢
        omega
      · exact ih _ ((List.mem_cons.mp member).resolve_left (Ne.symm same))

theorem uncontrolled (text : List Char) (clean : hasControl text = false) (c : Char) (member : c ∈ text) :
    isPrintable c ∨ c = '\n' := by
  have free := List.any_eq_false.mp clean c member
  simp [isPrintable] at free ⊢
  grind

theorem literal_written (text rest : List Char) (free : ∀ c ∈ text, c ≠ '\'' ∧ isPrintable c) :
    literal? (text ++ '\'' :: rest) = some (text, rest) := by
  induction text with
  | nil => rw [List.nil_append, literal?]
  | cons c text ih =>
      obtain ⟨⟨quote, printable⟩, others⟩ := List.forall_mem_cons.mp free
      rw [List.cons_append, literal?, if_pos printable, ih others, before?]
      exact quote

theorem literal_line_spelled (c : Char) (rest : List Char) (quote : c ≠ '\'') (shown : isPrintable c ∨ c = '\n') :
    literalLines? (c :: rest) = before? (some c) (literalLines? rest) := by
  have carriage := no_carriage c shown
  rw [literalLines?]
  · simp [shown]
  all_goals simp [quote, carriage]

theorem literal_lines_stand (run best : Nat) (text : List Char)
    (short : (text.foldl (countRun '\'') (run, best)).2 ≤ 2) (shown : ∀ c ∈ text, isPrintable c ∨ c = '\n') :
    Stands '\'' literalLines? run text text := by
  induction text generalizing run best with
  | nil => exact .nil run
  | cons c text ih =>
      obtain ⟨first, others⟩ := List.forall_mem_cons.mp shown
      by_cases quote : c = '\''
      · subst quote
        have grows := counted_grows '\'' (countRun '\'' (run, best) '\'') text
        have few : run + 1 ≤ 2 := by
          simp [countRun] at grows short
          omega
        exact .quote run text text few (ih (run + 1) _ short others)
      · have kept : countRun '\'' (run, best) c = (0, best) := by simp [countRun, quote]
        rw [List.foldl_cons, kept] at short
        exact .piece run c c [] text text quote (fun rest => literal_line_spelled c rest quote first)
          (ih 0 best short others)

-- The line end behind the opening quotes is one that the writer has put there.
theorem line_start_skipped (quote : Char) (text body rest : List Char) (fence : quote ≠ '\r' ∧ quote ≠ '\n')
    (starts : ∀ head, body.head? = some head → head ≠ '\r' ∧ (head = '\n' → '\n' ∈ text)) :
    skipFirstLineEnd (lineStart text ++ (body ++ quote :: rest)) = body ++ quote :: rest := by
  by_cases lines : '\n' ∈ text
  · simp [lineStart, lines, skipFirstLineEnd, lineEnd?]
  · have stays : lineEnd? (body ++ quote :: rest) = none := by
      cases body with
      | nil => simp [lineEnd?, fence]
      | cons head tail =>
          obtain ⟨carriage, line⟩ := starts head rfl
          have other : head ≠ '\n' := fun same => lines (line same)
          simp [lineEnd?, carriage, other]
    simp [lineStart, lines, skipFirstLineEnd, stays]

-- A body that does not begin with a quote does not open a string of several lines, though it may be empty.
theorem opens_one (quote : Char) (body rest : List Char) (bare : body.head? ≠ some quote)
    (apart : rest.head? ≠ some quote) : ¬ [quote, quote] <+: body ++ quote :: rest := by
  cases body with
  | nil => cases rest <;> simp_all [eq_comm]
  | cons head tail => simp_all [eq_comm]

theorem string_basic (rest : List Char) (apart : ¬ ['"', '"'] <+: rest) : string? ('"' :: rest) = basic? rest := by
  rw [string?]
  grind

theorem string_literal (rest : List Char) (apart : ¬ ['\'', '\''] <+: rest) :
    string? ('\'' :: rest) = literal? rest := by
  rw [string?]
  grind

-- What the choice of quotes rests on.
theorem quotes_chosen (text : List Char) :
    (quotesFor text = .literal → (∀ c ∈ text, isPrintable c ∨ c = '\n') ∧ longestRun '\'' text = 0 ∧ '\n' ∉ text) ∧
    (quotesFor text = .literalLines → (∀ c ∈ text, isPrintable c ∨ c = '\n') ∧ longestRun '\'' text ≤ 2) := by
  unfold quotesFor
  by_cases controlled : hasControl text
  · by_cases lines : '\n' ∈ text <;> simp [controlled, lines]
  · have shown := uncontrolled text (Bool.eq_false_iff.mpr controlled)
    simp only [controlled]
    split_ifs <;> simp_all

theorem string_written (text rest : List Char) (basic : rest.head? ≠ some '"') (literal : rest.head? ≠ some '\'') :
    string? (writeString text ++ rest) = some (text, rest) := by
  unfold writeString
  cases kind : quotesFor text with
  | basic =>
      have opens := opens_one '"' (basicBody false 0 0 text) rest
        (fun leads => Nat.not_lt_zero 0 ((basic_body_head _ _ _ _ _ leads).2.1 rfl)) basic
      simpa [string_basic _ opens] using basic_written text rest
  | literal =>
      obtain ⟨shown, unquoted, line⟩ := (quotes_chosen text).1 kind
      rw [longest_run_counted] at unquoted
      have free (c : Char) (member : c ∈ text) : c ≠ '\'' ∧ isPrintable c := by
        refine ⟨fun quote => ?_, (shown c member).resolve_right fun same => line (same ▸ member)⟩
        exact absurd unquoted (Nat.ne_of_gt (counted_member '\'' (0, 0) text (quote ▸ member)))
      have opens := opens_one '\'' text rest (fun leads => (free _ (List.mem_of_head? leads)).1 rfl) literal
      simpa [string_literal _ opens] using literal_written text rest free
  | basicLines =>
      have read := fenced_read _ _ basic_lines_fenced 0 _ text rest (basic_lines_stand 0 text) basic
      have skipped := line_start_skipped '"' text (basicBody true 2 0 text) ('"' :: '"' :: rest) (by decide)
        fun head leads => ⟨(basic_body_head _ _ _ _ _ leads).1, (basic_body_head _ _ _ _ _ leads).2.2⟩
      simpa [string?, skipped] using read
  | literalLines =>
      obtain ⟨shown, few⟩ := (quotes_chosen text).2 kind
      rw [longest_run_counted] at few
      have read := fenced_read _ _ literal_lines_fenced 0 _ text rest (literal_lines_stand 0 0 text few shown) literal
      have skipped := line_start_skipped '\'' text text ('\'' :: '\'' :: rest) (by decide) fun head leads =>
        ⟨no_carriage head (shown head (List.mem_of_head? leads)), fun line => line ▸ List.mem_of_head? leads⟩
      simpa [string?, skipped] using read

end ChainExplorer.Toml
