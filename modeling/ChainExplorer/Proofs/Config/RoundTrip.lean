import ChainExplorer.Proofs.Config.Encoding
import ChainExplorer.Proofs.Files.Tree

set_option autoImplicit false

namespace ChainExplorer

namespace FileTree

-- A tree on which everything succeeds that writing a file takes: making its directory, and then writing a text.
def Accepts (tree : FileTree) (path : String) : Prop :=
  ∃ ready, (Config.makeParent (m := StateM FileTree) path).run tree = (.ok (), ready) ∧
    ∀ text, ((Files.write (m := StateM FileTree) path text).run ready).1 = .ok ()

section Runs
variable {α β : Type} (tree : FileTree) (path : String)

theorem run_pure (value : α) : (pure value : StateM FileTree α).run tree = (value, tree) := rfl

theorem run_bind (work : StateM FileTree α) (next : α → StateM FileTree β) :
    (work >>= next).run tree = (next (work.run tree).1).run (work.run tree).2 := rfl

theorem run_is_there : (Files.isThere (m := StateM FileTree) path).run tree = (tree.isThere path, tree) := rfl

theorem run_is_file : (Files.isFile (m := StateM FileTree) path).run tree = (tree.isFile path, tree) := rfl

theorem run_read : (Files.read (m := StateM FileTree) path).run tree = (tree.read path, tree) := rfl

theorem run_attempt (work : FileTree → Except FileError FileTree) :
    (attempt work).run tree = match work tree with
      | .ok changed => (.ok (), changed)
      | .error problem => (.error problem, tree) := rfl

theorem run_write (text : String) :
    (Files.write (m := StateM FileTree) path text).run tree =
      (attempt fun tree => tree.revise path fun _ => text).run tree := rfl

end Runs

theorem read_is_file (tree : FileTree) (path text : String) (read : tree.read path = .ok text) :
    tree.isFile path = true ∧ tree.isThere path = true := by
  obtain ⟨names, led, found, plain⟩ := (read_iff tree path text).mp read
  simp [isFile, isThere, entry, led, found, plain]

theorem write_run (tree : FileTree) (path text : String)
    (written : ((Files.write (m := StateM FileTree) path text).run tree).1 = .ok ()) :
    ∃ after, (Files.write (m := StateM FileTree) path text).run tree = (.ok (), after) ∧
      after.read path = .ok text := by
  rw [run_write, run_attempt] at written ⊢
  cases revised : tree.revise path (fun _ => text) with
  | error problem => simp [revised] at written
  | ok after => exact ⟨after, rfl, written_read tree after path text revised⟩

theorem attempt_spares (work : FileTree → Except FileError FileTree) (tree : FileTree)
    (spares : ∀ after, work tree = .ok after → tree.Spares after) : tree.Spares ((attempt work).run tree).2 := by
  rw [run_attempt]
  cases done : work tree with
  | error problem => exact spares_self tree
  | ok after => exact spares after done

theorem make_parent_spares (tree : FileTree) (path : String) :
    tree.Spares ((Config.makeParent (m := StateM FileTree) path).run tree).2 := by
  rw [Config.makeParent]
  cases Path.parent? path with
  | none => exact spares_self tree
  | some parent => exact attempt_spares _ tree fun after made => ensure_spares _ tree after parent made

end FileTree

namespace Config

open FileTree

theorem load_run (config : Config) (path text : String) (tree : FileTree) (read : tree.read path = .ok text)
    (decoded : decode (withoutMark text) = .ok config) :
    (load (m := StateM FileTree) path).run tree = (.ok config, tree) := by
  have file := (read_is_file tree path text read).1
  simp only [load, findFile, run_bind, run_is_file, file, if_true, run_pure, run_read, read, decoded]

theorem save_run (config : Config) (path text : String) (tree : FileTree) (accepts : tree.Accepts path)
    (encoded : config.encode? = some text) :
    ∃ after, (save (m := StateM FileTree) config path).run tree = (.ok (), after) ∧ after.read path = .ok text := by
  obtain ⟨ready, made, writes⟩ := accepts
  obtain ⟨after, written, read⟩ := write_run ready path text (writes text)
  exact ⟨after, by simp only [save, run_bind, made, encoded, written, run_pure], read⟩

theorem refused_run (config : Config) (path : String) (tree : FileTree) (refused : config.encode? = none) :
    ∃ problem, (save (m := StateM FileTree) config path).run tree =
        (.error problem, ((makeParent (m := StateM FileTree) path).run tree).2) ∧
      (tree.Accepts path → problem = .delayTooLarge) := by
  cases made : (makeParent (m := StateM FileTree) path).run tree with
  | mk result ready =>
      cases result with
      | error problem =>
          refine ⟨.noParent problem, ?_, fun ⟨_, accepted, _⟩ => nomatch made.symm.trans accepted⟩
          simp only [save, run_bind, made, run_pure]
      | ok done => exact ⟨.delayTooLarge, by simp only [save, run_bind, made, refused, run_pure], fun _ => rfl⟩

theorem create_run (path : String) (tree after : FileTree) (missing : tree.isThere path = false)
    (saved : (save (m := StateM FileTree) default path).run tree = (.ok (), after)) :
    (loadOrCreate (m := StateM FileTree) path).run tree = (.ok (default, true), after) := by
  simp only [loadOrCreate, run_bind, run_is_there, missing, Bool.false_eq_true, if_false, saved, run_pure]
  rfl

theorem present_run (config : Config) (path : String) (tree : FileTree) (present : tree.isThere path = true)
    (loaded : (load (m := StateM FileTree) path).run tree = (.ok config, tree)) :
    (loadOrCreate (m := StateM FileTree) path).run tree = (.ok (config, false), tree) := by
  simp only [loadOrCreate, run_bind, run_is_there, present, if_true, loaded, run_pure]
  rfl

-- A file that reads as a configuration's text is loaded as the configuration, whatever other files there are.
theorem load_encoded (config : Config) (path text : String) (after later : FileTree)
    (encoded : config.encode? = some text) (read : after.read path = .ok text)
    (same : later.read path = after.read path) : (load (m := StateM FileTree) path).run later = (.ok config, later) :=
  load_run config path text later (same.trans read) (decode_encoded config text encoded)

theorem file_round_trip (config : Config) (path : String) (tree : FileTree) :
    (tree.Accepts path → config.settleDelay ≤ Nat.pow 2 63 - 1 →
      ∃ after, (save (m := StateM FileTree) config path).run tree = (.ok (), after) ∧
        ∀ later : FileTree, later.read path = after.read path →
          (load (m := StateM FileTree) path).run later = (.ok config, later)) ∧
    (Nat.pow 2 63 - 1 < config.settleDelay →
      ∃ problem after, (save (m := StateM FileTree) config path).run tree = (.error problem, after) ∧
        (tree.Accepts path → problem = .delayTooLarge) ∧ tree.SameFiles after ∧
        ∀ other text, tree.read other = .ok text → after.read other = .ok text) ∧
    (tree.Accepts path → tree.isThere path = false →
      ∃ after, (loadOrCreate (m := StateM FileTree) path).run tree = (.ok (default, true), after) ∧
        ∀ later : FileTree, later.read path = after.read path →
          (loadOrCreate (m := StateM FileTree) path).run later = (.ok (default, false), later)) := by
  refine ⟨fun accepts small => ?_, fun large => ?_, fun accepts missing => ?_⟩
  · have fits := (encoded_fits config).mpr (Nat.lt_of_le_pred (by decide) small)
    obtain ⟨text, encoded⟩ := Option.isSome_iff_exists.mp fits
    obtain ⟨after, saved, read⟩ := save_run config path text tree accepts encoded
    exact ⟨after, saved, fun later same => load_encoded config path text after later encoded read same⟩
  · have refused : config.encode? = none := by
      rw [← Option.not_isSome_iff_eq_none, encoded_fits]
      exact Nat.not_lt.mpr (Nat.le_of_pred_lt large)
    obtain ⟨problem, saved, accepted⟩ := refused_run config path tree refused
    have spares := make_parent_spares tree path
    exact ⟨problem, _, saved, accepted, spares.files, fun other text => read_kept tree _ other text spares⟩
  · obtain ⟨text, encoded⟩ := Option.isSome_iff_exists.mp ((encoded_fits default).mpr (by decide))
    obtain ⟨after, saved, read⟩ := save_run default path text tree accepts encoded
    refine ⟨after, create_run path tree after missing saved, fun later same => ?_⟩
    have present := (read_is_file later path text (same.trans read)).2
    exact present_run default path later present (load_encoded default path text after later encoded read same)

-- Texts that no single kind of quotes suits, a date, an empty text, and the largest delay that a file can hold.
def quaint : Config where
  endpoint := "say \"\"\"C:\\tmp\"\"\"\n'''\u0007\r\n"
  settleDelay := Nat.pow 2 63 - 1
  logFile := some "1979-05-27"
  ignoreStale := true
  userAgent := some ""

-- One millisecond more.
def endless : Config := { quaint with settleDelay := Nat.pow 2 63 }

def homeTree (entries : Entries) : FileTree :=
  ⟨[("home", .directory (("notes", .file "kept") :: entries))], ["home"]⟩

theorem empty_home_accepts : (homeTree []).Accepts "settings/explorer.toml" := by
  refine ⟨homeTree [("settings", .directory [])], ?_, fun text => rfl⟩
  have made : makeOne (homeTree []) "settings" =
      .ok ⟨put (.directory []) (homeTree []).root ["home", "settings"], ["home"]⟩ := rfl
  have entry : put (.directory []) (homeTree []).root ["home", "settings"] =
      (homeTree [("settings", .directory [])]).root := by simp [homeTree, put]
  have ensured : ensure ((Path.parts "settings").length + 1) (homeTree []) "settings" =
      .ok (homeTree [("settings", .directory [])]) := by
    rw [ensure, ensureOne, made, entry]
    rfl
  have parent : Path.parent? "settings/explorer.toml" = some "settings" := rfl
  rw [makeParent, parent]
  exact (run_attempt _ _).trans (by rw [ensured])

theorem file_round_trip_quaint :
    (homeTree []).Accepts "settings/explorer.toml" ∧ (homeTree []).isThere "settings/explorer.toml" = false ∧
    (∃ after, (save (m := StateM FileTree) quaint "settings/explorer.toml").run (homeTree []) = (.ok (), after) ∧
      (load (m := StateM FileTree) "settings/explorer.toml").run after = (.ok quaint, after)) ∧
    (∃ after, (save (m := StateM FileTree) endless "settings/explorer.toml").run (homeTree []) =
        (.error .delayTooLarge, after) ∧ (homeTree []).SameFiles after ∧ after.read "notes" = .ok "kept") ∧
    ∃ after, (loadOrCreate (m := StateM FileTree) "settings/explorer.toml").run (homeTree []) =
        (.ok (default, true), after) ∧
      (loadOrCreate (m := StateM FileTree) "settings/explorer.toml").run after = (.ok (default, false), after) := by
  have missing : (homeTree []).isThere "settings/explorer.toml" = false := rfl
  refine ⟨empty_home_accepts, missing, ?_, ?_, ?_⟩
  · obtain ⟨after, saved, loaded⟩ := (file_round_trip quaint _ (homeTree [])).1 empty_home_accepts (Nat.le_refl _)
    exact ⟨after, saved, loaded after rfl⟩
  · obtain ⟨problem, after, saved, refused, same, kept⟩ :=
      (file_round_trip endless "settings/explorer.toml" (homeTree [])).2.1 (by decide)
    exact ⟨after, refused empty_home_accepts ▸ saved, same, kept "notes" "kept" rfl⟩
  · obtain ⟨after, created, loaded⟩ := (file_round_trip quaint _ (homeTree [])).2.2 empty_home_accepts missing
    exact ⟨after, created, loaded after rfl⟩

end Config
end ChainExplorer
