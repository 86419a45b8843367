import ChainExplorer.Files.Tree
import Mathlib.Data.List.Basic

set_option autoImplicit false

namespace ChainExplorer.FileTree

def IsDirectory (root : Entries) (names : List String) : Prop := ∃ inner, find? root names = some (.directory inner)

theorem root_directory (root : Entries) : IsDirectory root [] := ⟨root, by rw [find?]⟩

-- A new entry may stand where there is no directory, and has nothing in it.
structure Leaf (entry : Entry) (root : Entries) (names : List String) : Prop where
  free : ¬ IsDirectory root names
  bare : ∀ inner, entry = .directory inner → inner = []

theorem put_past (entry content : Entry) (rest : Entries) (known name : String) (names : List String)
    (apart : known ≠ name) :
    put entry ((known, content) :: rest) (name :: names) = (known, content) :: put entry rest (name :: names) := by
  cases content <;> cases names <;> simp [put, apart]

theorem lookup_elsewhere (entry : Entry) (root : Entries) (name other : String) (names : List String)
    (apart : other ≠ name) : (put entry root (name :: names)).lookup other = root.lookup other := by
  have unequal : (other == name) = false := beq_false_of_ne apart
  induction root with
  | nil => cases names <;> simp [put, List.lookup_cons, unequal]
  | cons member rest ih =>
      obtain ⟨known, content⟩ := member
      by_cases same : known = name
      · cases content <;> cases names <;> simp [put, List.lookup_cons, same, unequal]
      · rw [put_past entry content rest known name names same, List.lookup_cons, List.lookup_cons, ih]

theorem lookup_last (entry : Entry) (root : Entries) (name : String) :
    (put entry root [name]).lookup name = some entry := by
  induction root with
  | nil => simp [put]
  | cons member rest ih =>
      obtain ⟨known, content⟩ := member
      by_cases same : known = name
      · simp [put, same]
      · have unequal : (name == known) = false := beq_false_of_ne (Ne.symm same)
        rw [put_past entry content rest known name [] same, List.lookup_cons, unequal, ih]

-- An entry with a new one put somewhere inside.
def within (entry : Entry) (names : List String) : Entry → Entry
  | .directory inner => .directory (put entry inner names)
  | .file text => .file text

theorem lookup_inside (entry : Entry) (root : Entries) (name next : String) (names : List String) :
    (put entry root (name :: next :: names)).lookup name = (root.lookup name).map (within entry (next :: names)) := by
  induction root with
  | nil => simp [put]
  | cons member rest ih =>
      obtain ⟨known, content⟩ := member
      by_cases same : known = name
      · cases content <;> simp [put, same, within]
      · have unequal : (name == known) = false := beq_false_of_ne (Ne.symm same)
        rw [put_past entry content rest known name _ same, List.lookup_cons, List.lookup_cons, unequal, ih]

theorem inside_directory (root inner : Entries) (name : String) (names : List String)
    (content : root.lookup name = some (.directory inner)) : find? root (name :: names) = find? inner names := by
  rw [find?, content]

theorem directory_iff (root inner : Entries) (name : String) (names : List String)
    (content : root.lookup name = some (.directory inner)) : IsDirectory root (name :: names) ↔ IsDirectory inner names := by
  rw [IsDirectory, inside_directory root inner name names content, IsDirectory]

theorem directory_inside (root : Entries) (name : String) (names : List String)
    (directory : IsDirectory root (name :: names)) :
    ∃ inner, root.lookup name = some (.directory inner) ∧ IsDirectory inner names := by
  obtain ⟨entries, found⟩ := directory
  rw [find?] at found
  cases content : root.lookup name with
  | none => simp [content] at found
  | some entry =>
      cases entry with
      | directory inner => exact ⟨inner, rfl, entries, by simpa [content] using found⟩
      | file text => cases names <;> simp [content] at found

-- What is inside a directory is found there after a new entry has been put into it.
theorem put_inside (entry : Entry) (root inner : Entries) (name next : String) (names place : List String)
    (content : root.lookup name = some (.directory inner)) :
    find? (put entry root (name :: next :: names)) (name :: place) = find? (put entry inner (next :: names)) place := by
  have around := lookup_inside entry root name next names
  rw [content] at around
  exact inside_directory _ _ name place around

-- Directories stay directories.
theorem directory_put (entry : Entry) (root : Entries) (names place : List String)
    (free : ¬ IsDirectory root names) (directory : IsDirectory root place) :
    IsDirectory (put entry root names) place := by
  induction names generalizing root place with
  | nil => exact absurd (root_directory root) free
  | cons name names ih =>
      cases place with
      | nil => exact root_directory _
      | cons other place =>
          obtain ⟨inner, content, there⟩ := directory_inside root other place directory
          by_cases same : other = name
          · subst same
            rw [directory_iff root inner other names content] at free
            cases names with
            | nil => exact absurd (root_directory inner) free
            | cons next names =>
                rw [IsDirectory, put_inside entry root inner other next names place content]
                exact ih inner place free there
          · rw [directory_iff _ inner other place]
            · exact there
            · rw [lookup_elsewhere entry root name other names same, content]

theorem inside_file (root : Entries) (name other text : String) (names : List String)
    (content : root.lookup name = some (.file text)) : find? root (name :: other :: names) = none := by
  rw [find?, content]
  rfl

theorem inside_nothing (root : Entries) (name : String) (names : List String)
    (content : root.lookup name = none) : find? root (name :: names) = none := by
  rw [find?, content]

theorem nothing_inside (root : Entries) (name next : String) (names : List String) (free : ¬ IsDirectory root [name]) :
    find? root (name :: next :: names) = none := by
  cases content : root.lookup name with
  | none => exact inside_nothing root name _ content
  | some known =>
      cases known with
      | file text => exact inside_file root name next text names content
      | directory inner => exact absurd ((directory_iff root inner name [] content).mpr (root_directory inner)) free

theorem leaf_inside (entry : Entry) (root : Entries) (name next : String) (names : List String)
    (bare : ∀ inner, entry = .directory inner → inner = []) :
    find? (put entry root [name]) (name :: next :: names) = none := by
  cases entry with
  | file text => exact inside_file _ name next text names (lookup_last _ root name)
  | directory inner =>
      rw [inside_directory _ inner name _ (lookup_last _ root name), bare inner rfl]
      rfl

-- Files elsewhere stay as they were, and none comes up there.
theorem file_put (entry : Entry) (root : Entries) (names place : List String) (text : String)
    (leaf : Leaf entry root names) (apart : place ≠ names) :
    find? (put entry root names) place = some (.file text) ↔ find? root place = some (.file text) := by
  induction names generalizing root place with
  | nil => exact absurd (root_directory root) leaf.free
  | cons name names ih =>
      cases place with
      | nil => simp [find?]
      | cons other place =>
          by_cases same : other = name
          · subst same
            cases names with
            | nil =>
                cases place with
                | nil => exact absurd rfl apart
                | cons next place =>
                    rw [leaf_inside entry root other next place leaf.bare,
                      nothing_inside root other next place leaf.free]
            | cons next names =>
                cases content : root.lookup other with
                | none => rw [find?, find?, lookup_inside, content, Option.map_none]
                | some known =>
                    cases known with
                    | file known => rw [find?, find?, lookup_inside, content, Option.map_some, within]
                    | directory inner =>
                        have free := mt (directory_iff root inner other _ content).mpr leaf.free
                        rw [put_inside entry root inner other next names place content,
                          inside_directory root inner other place content]
                        exact ih inner place ⟨free, leaf.bare⟩ fun same => apart (same ▸ rfl)
          · rw [find?, find?, lookup_elsewhere entry root name other names same]

theorem found_put (entry : Entry) (root : Entries) (front : List String) (last : String)
    (parent : IsDirectory root front) : find? (put entry root (front ++ [last])) (front ++ [last]) = some entry := by
  induction front generalizing root with
  | nil =>
      rw [List.nil_append, find?, lookup_last]
      cases entry <;> simp [find?]
  | cons name front ih =>
      obtain ⟨inner, content, there⟩ := directory_inside root name front parent
      obtain ⟨next, names, same⟩ := List.exists_cons_of_ne_nil (List.concat_ne_nil last front)
      rw [List.cons_append, same, put_inside entry root inner name next names _ content, ← same]
      exact ih inner there

theorem directory_above (root : Entries) (front : List String) (last : String) (entry : Entry)
    (found : find? root (front ++ [last]) = some entry) : IsDirectory root front := by
  induction front generalizing root with
  | nil => exact root_directory root
  | cons name front ih =>
      rw [List.cons_append, find?] at found
      cases content : root.lookup name with
      | none => simp [content] at found
      | some known =>
          cases known with
          | file text => simp [content] at found
          | directory inner =>
              simp only [content] at found
              exact (directory_iff root inner name front content).mpr (ih inner found)

-- The same files at the same places, with the same texts.
def SameFiles (before after : FileTree) : Prop :=
  ∀ names text, find? after.root names = some (.file text) ↔ find? before.root names = some (.file text)

-- Whatever led somewhere still does: directories stay, and the place in which paths start.
structure Leads (before after : FileTree) : Prop where
  place : after.place = before.place
  directory (names : List String) : IsDirectory before.root names → IsDirectory after.root names

structure Spares (before after : FileTree) : Prop extends Leads before after where
  files : before.SameFiles after

theorem spares_self (tree : FileTree) : tree.Spares tree := ⟨⟨rfl, fun _ => id⟩, fun _ _ => Iff.rfl⟩

theorem spares_both (first second third : FileTree) (one : first.Spares second) (two : second.Spares third) :
    first.Spares third :=
  ⟨⟨two.place.trans one.place, fun names => two.directory names ∘ one.directory names⟩,
    fun names text => (two.files names text).trans (one.files names text)⟩

theorem follow_kept (root grown : Entries) (directory : ∀ names, IsDirectory root names → IsDirectory grown names)
    (place parts names : List String) (led : follow root place parts = .ok names) :
    follow grown place parts = .ok names := by
  induction parts generalizing place with
  | nil => exact led
  | cons part parts ih =>
      rw [follow] at led ⊢
      cases found : find? root place with
      | none => simp [found] at led
      | some entry =>
          cases entry with
          | file text => simp [found] at led
          | directory inner =>
              obtain ⟨more, still⟩ := directory place ⟨inner, found⟩
              simp only [found, still] at led ⊢
              split_ifs at led ⊢ <;> exact ih _ led

theorem locate_kept (before after : FileTree) (path : String) (names : List String) (leads : before.Leads after)
    (led : before.locate path = .ok names) : after.locate path = .ok names := by
  rw [locate] at led ⊢
  rw [leads.place]
  split_ifs at led ⊢ <;> exact follow_kept _ _ leads.directory _ _ _ led

theorem read_iff (tree : FileTree) (path text : String) :
    tree.read path = .ok text ↔
      ∃ names, tree.locate path = .ok names ∧ find? tree.root names = some (.file text) ∧
        Path.asksForDirectory path = false := by
  rw [read, entry]
  cases led : tree.locate path with
  | error problem => simp
  | ok names =>
      cases found : find? tree.root names with
      | none => simp [found]
      | some known =>
          cases known with
          | directory inner => simp [found]
          | file other => cases Path.asksForDirectory path <;> simp [found]

theorem read_kept (before after : FileTree) (path text : String) (spares : before.Spares after)
    (read : before.read path = .ok text) : after.read path = .ok text := by
  obtain ⟨names, led, found, plain⟩ := (read_iff before path text).mp read
  exact (read_iff after path text).mpr ⟨names, locate_kept before after path names spares.toLeads led,
    (spares.files names text).mpr found, plain⟩

theorem put_leads (tree : FileTree) (entry : Entry) (names : List String) (free : ¬ IsDirectory tree.root names) :
    tree.Leads { tree with root := put entry tree.root names } :=
  ⟨rfl, fun place directory => directory_put entry tree.root names place free directory⟩

theorem nothing_free (root : Entries) (names : List String) (nothing : find? root names = none) :
    ¬ IsDirectory root names := by
  rintro ⟨inner, found⟩
  rw [nothing] at found
  contradiction

theorem put_directory_spares (tree : FileTree) (names : List String) (nothing : find? tree.root names = none)
    (parent : IsDirectory tree.root names.dropLast) :
    tree.Spares { tree with root := put (.directory []) tree.root names } := by
  have free := nothing_free tree.root names nothing
  refine ⟨put_leads tree _ names free, fun place text => ?_⟩
  by_cases same : place = names
  · subst same
    rcases List.eq_nil_or_concat' place with rfl | ⟨front, last, rfl⟩
    · exact absurd (root_directory tree.root) free
    · rw [List.dropLast_concat] at parent
      simp [found_put _ tree.root front last parent, nothing]
  · exact file_put _ tree.root names place text ⟨free, fun inner same => (Entry.directory.inj same).symm⟩ same

theorem make_one_spares (tree after : FileTree) (path : String) (made : tree.makeOne path = .ok after) :
    tree.Spares after := by
  rw [makeOne] at made
  cases led : tree.locate path with
  | error problem => simp [led] at made
  | ok names =>
      cases found : find? tree.root names with
      | some known => simp [led, found] at made
      | none =>
          cases above : find? tree.root names.dropLast with
          | none => simp [led, found, above] at made
          | some parent =>
              cases parent with
              | file text => simp [led, found, above] at made
              | directory inner =>
                  simp only [led, found, above, Except.ok.injEq] at made
                  exact made ▸ put_directory_spares tree names found ⟨inner, above⟩

theorem ensure_one_spares (tree after : FileTree) (path : String) (made : tree.ensureOne path = .ok after) :
    tree.Spares after := by
  rw [ensureOne] at made
  cases one : tree.makeOne path with
  | ok grown =>
      simp only [one, Except.ok.injEq] at made
      exact make_one_spares tree after path (made ▸ one)
  | error problem =>
      simp only [one] at made
      split_ifs at made
      exact Except.ok.inj made ▸ spares_self tree

theorem ensure_spares (fuel : Nat) (tree after : FileTree) (path : String) (made : ensure fuel tree path = .ok after) :
    tree.Spares after := by
  induction fuel generalizing path after with
  | zero => exact ensure_one_spares tree after path made
  | succ fuel ih =>
      rw [ensure] at made
      split_ifs at made with empty
      · exact Except.ok.inj made ▸ spares_self tree
      · split at made
        · next parent _ _ =>
            cases above : ensure fuel tree parent with
            | error problem => simp [above, Except.bind] at made
            | ok grown =>
                rw [above] at made
                exact spares_both tree grown after (ih grown parent above) (ensure_one_spares grown after path made)
        · exact ensure_one_spares tree after path made

theorem directory_up (root : Entries) (place : List String) (directory : IsDirectory root place) :
    IsDirectory root place.dropLast := by
  rcases List.eq_nil_or_concat' place with rfl | ⟨front, last, rfl⟩
  · exact directory
  · obtain ⟨inner, found⟩ := directory
    rw [List.dropLast_concat]
    exact directory_above root front last _ found

-- A path that leads to nothing yet leads into a directory.
theorem follow_frontier (root : Entries) (place parts names : List String)
    (starts : parts ≠ [] ∨ IsDirectory root place) (led : follow root place parts = .ok names)
    (nothing : find? root names = none) : ∃ front last, names = front ++ [last] ∧ IsDirectory root front := by
  induction parts generalizing place with
  | nil =>
      obtain rfl := Except.ok.inj led
      exact absurd (starts.resolve_left fun some => some rfl) (nothing_free root place nothing)
  | cons part parts ih =>
      rw [follow] at led
      cases found : find? root place with
      | none => simp [found] at led
      | some known =>
          cases known with
          | file text => simp [found] at led
          | directory inner =>
              have here : IsDirectory root place := ⟨inner, found⟩
              simp only [found] at led
              split_ifs at led with same up
              · exact ih place (.inr here) led
              · exact ih place.dropLast (.inr (directory_up root place here)) led
              · cases parts with
                | nil => exact ⟨place, part, (Except.ok.inj led).symm, here⟩
                | cons next parts => exact ih (place ++ [part]) (.inl (List.cons_ne_nil _ _)) led

theorem relative_names (path : String) (some : path.isEmpty = false) (relative : Path.isAbsolute path = false) :
    ∃ name others, Path.names path = name :: others ∧ name.isEmpty = false := by
  cases same : path.toList with
  | nil => simp_all
  | cons c rest =>
      have slash : (c == '/') = false := by simpa [Path.isAbsolute, same] using relative
      obtain ⟨first, others, split⟩ := List.exists_cons_of_ne_nil (List.splitOnP_ne_nil (· == '/') rest)
      refine ⟨String.ofList (c :: first), others.map String.ofList, ?_, by simp⟩
      rw [Path.names, same, List.splitOn, List.splitOnP_cons_eq_if_modifyHead, slash, split]
      rfl

theorem relative_parts (path : String) (some : path.isEmpty = false) (relative : Path.isAbsolute path = false) :
    Path.parts path ≠ [] := by
  obtain ⟨name, others, names, named⟩ := relative_names path some relative
  by_cases dot : name = "."
  · simp [Path.parts, names, relative, dot]
  · simp [Path.parts, names, named, dot]

theorem locate_frontier (tree : FileTree) (path : String) (names : List String) (led : tree.locate path = .ok names)
    (nothing : find? tree.root names = none) : ∃ front last, names = front ++ [last] ∧ IsDirectory tree.root front := by
  rw [locate] at led
  split_ifs at led with empty absolute
  · exact follow_frontier tree.root [] _ names (.inr (root_directory tree.root)) led nothing
  · exact follow_frontier tree.root tree.place _ names
      (.inl (relative_parts path (Bool.eq_false_iff.mpr empty) (Bool.eq_false_iff.mpr absolute))) led nothing

theorem locate_inside (tree : FileTree) (path : String) (names : List String) (led : tree.locate path = .ok names)
    (free : ¬ IsDirectory tree.root names) : ∃ front last, names = front ++ [last] ∧ IsDirectory tree.root front := by
  cases found : find? tree.root names with
  | none => exact locate_frontier tree path names led found
  | some known =>
      rcases List.eq_nil_or_concat' names with rfl | ⟨front, last, place⟩
      · exact absurd (root_directory tree.root) free
      · exact ⟨front, last, place, directory_above tree.root front last known (place ▸ found)⟩

-- Where a text may be written: at a file, or at nothing yet in a directory.
structure Writable (tree : FileTree) (path : String) (names : List String) : Prop where
  led : tree.locate path = .ok names
  free : ¬ IsDirectory tree.root names
  plain : Path.asksForDirectory path = false

theorem revise_writes (tree after : FileTree) (path text : String)
    (revised : tree.revise path (fun _ => text) = .ok after) :
    ∃ names, tree.Writable path names ∧ after = { tree with root := put (.file text) tree.root names } := by
  cases led : tree.locate path with
  | error problem =>
      have refused : tree.revise path (fun _ => text) ≠ .ok after := by
        cases problem <;> cases plain : Path.asksForDirectory path <;> simp [revise, entry, led, plain, Except.map]
      exact absurd revised refused
  | ok names =>
      have free : ¬ IsDirectory tree.root names := by
        rintro ⟨inner, found⟩
        simp [revise, entry, led, found] at revised
      cases plain : Path.asksForDirectory path with
      | true =>
          cases found : find? tree.root names with
          | none => simp [revise, entry, led, found, plain] at revised
          | some known => cases known <;> simp [revise, entry, led, found, plain] at revised
      | false =>
          refine ⟨names, ⟨led, free, plain⟩, ?_⟩
          cases found : find? tree.root names with
          | none => simpa [revise, entry, led, found, plain, Except.map, eq_comm] using revised
          | some known =>
              cases known with
              | directory inner => exact absurd ⟨inner, found⟩ free
              | file old => simpa [revise, entry, led, found, plain, Except.map, eq_comm] using revised

theorem written_read (tree after : FileTree) (path text : String)
    (revised : tree.revise path (fun _ => text) = .ok after) : after.read path = .ok text := by
  obtain ⟨names, ⟨led, free, plain⟩, rfl⟩ := revise_writes tree after path text revised
  obtain ⟨front, last, place, parent⟩ := locate_inside tree path names led free
  have still := locate_kept tree _ path names (put_leads tree (.file text) names free) led
  have found := found_put (.file text) tree.root front last parent
  rw [← place] at found
  exact (read_iff _ path text).mpr ⟨names, still, found, plain⟩

end ChainExplorer.FileTree
