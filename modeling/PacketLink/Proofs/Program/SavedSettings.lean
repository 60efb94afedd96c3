import PacketLink.Hid.Deviceless
import PacketLink.Proofs.Files.Trees
import PacketLink.Proofs.Host.StoredSettings
import PacketLink.Program.Run

namespace PacketLink.Program

/-! Settings survive being saved: they are loaded again as they were, and settings that cannot be stored
leave the files as they are. -/

open FileTree (store)

variable {σ : Type} {tree made after : FileTree} {path : String} {config stored : HostConfig} {text : String}

theorem loadSettings_of_file {content : ByteArray} (loaded : tree.load path = .ok (some content)) :
    loadSettings store path tree = ((HostConfig.read content).mapError .settings, tree) := by
  simp only [loadSettings, store, bind, StateT.bind, loaded]
  rfl

/-- Settings that were loaded can be saved, and loading leaves the files as they are. -/
theorem loadSettings_eq_ok (loaded : (loadSettings store path tree).1 = .ok config) :
    loadSettings store path tree = (.ok config, tree) ∧
      config.readTimeoutMillis.toNat < Nat.pow 2 63 := by
  rcases found : tree.load path with reason | _ | content
  · simp only [loadSettings, store, bind, StateT.bind, found] at loaded
    cases loaded
  · simp only [loadSettings, store, bind, StateT.bind, found] at loaded ⊢
    cases loaded
    exact ⟨rfl, (by decide : (5000 : UInt64).toNat < Nat.pow 2 63)⟩
  · rw [loadSettings_of_file found] at loaded ⊢
    cases read : HostConfig.read content with
    | error reason =>
        rw [read] at loaded
        cases loaded
    | ok stored =>
        rw [read] at loaded
        cases loaded
        exact ⟨rfl, HostConfig.read_small read⟩

theorem saveSettings_of_text (entered : tree.makeFolders path = (.ok (), made))
    (rendered : config.render = .ok text) (written : made.write path text.toUTF8 = (.ok (), after)) :
    saveSettings store path config tree = (.ok (), after) := by
  simp only [saveSettings, store, bind, StateT.bind, entered, rendered, written]
  rfl

theorem saveSettings_of_large (large : config.render = .error .timeoutOutOfRange) :
    ∃ reason, saveSettings store path config tree = (.error reason, (tree.makeFolders path).2) := by
  cases entered : (tree.makeFolders path).1 with
  | error reason =>
      simp only [saveSettings, store, bind, StateT.bind, entered]
      exact ⟨_, rfl⟩
  | ok _ =>
      simp only [saveSettings, store, bind, StateT.bind, entered, large]
      exact ⟨_, rfl⟩

/-- What is saved at a path that accepts it is loaded from there, and the path goes on to accept. -/
theorem saveSettings_stores (accepts : tree.Accepts path)
    (small : config.readTimeoutMillis.toNat < Nat.pow 2 63) :
    ∃ text after, config.render = .ok text ∧ saveSettings store path config tree = (.ok (), after) ∧
      after.load path = .ok (some text.toUTF8) ∧ loadSettings store path after = (.ok config, after) ∧
      after.Accepts path := by
  obtain ⟨text, rendered⟩ := HostConfig.render_of_small small
  obtain ⟨made, after, entered, written, loaded, accepts⟩ := accepts.stores text.toUTF8
  refine ⟨text, after, rendered, saveSettings_of_text entered rendered written, loaded, ?_, accepts⟩
  rw [loadSettings_of_file loaded, HostConfig.read_render rendered]
  rfl

/-- Stored settings with those asked for, saved once and once more. -/
theorem saveSettings_twice {asked : HostConfig.Overrides} (accepts : tree.Accepts path)
    (loaded : (loadSettings store path tree).1 = .ok stored)
    (given : ∀ millis, asked.readTimeoutMillis = some millis → millis.toNat < Nat.pow 2 63) :
    ∃ text after again, saveSettings store path (stored.apply asked) tree = (.ok (), after) ∧
      after.load path = .ok (some text) ∧
      loadSettings store path after = (.ok (stored.apply asked), after) ∧
      saveSettings store path ((stored.apply asked).apply asked) after = (.ok (), again) ∧
      again.load path = .ok (some text) := by
  have small := HostConfig.apply_small (loadSettings_eq_ok loaded).2 given
  obtain ⟨text, after, rendered, saved, held, reloaded, accepts⟩ := saveSettings_stores accepts small
  obtain ⟨other, again, rerendered, resaved, reheld, -, -⟩ := saveSettings_stores accepts small
  obtain rfl : text = other := Except.ok.inj (rendered.symm.trans rerendered)
  rw [HostConfig.apply_again]
  exact ⟨_, after, again, saved, held, reloaded, resaved, reheld⟩

/-- The command that saves the settings of a run. -/
theorem run_saveConfig {surroundings : Surroundings σ} {arguments : List String}
    {settings : CommandLine.Settings} {monitor : Option Monitor.Config}
    (parsed : CommandLine.parse arguments = .ok ⟨.saveConfig, settings⟩)
    (chosen : Monitor.Config.choose settings.monitor settings.hex settings.json settings.filter = .ok monitor)
    (same : settings.config.getD surroundings.settingsPath = path)
    (loaded : loadSettings store path tree = (.ok stored, tree))
    (saved : saveSettings store path (stored.apply (overrides settings)) tree = (.ok (), after)) :
    run store surroundings arguments tree =
      (⟨[.output s!"Saved configuration to {path}"], none⟩, after) := by
  subst same
  simp only [run, parsed, bind, StateT.bind, loaded, chosen, if_true, saved]
  rfl

/-- Settings with a timeout of 63 bits are loaded as they were saved; others cannot be saved, and then
each file is what it was. So whatever settings are stored and asked for, the command that saves them stores
the stored settings with those asked for, and the same command again leaves the text of the file as it is. -/
theorem settings_survive :
    (∀ (tree : FileTree) (path : String) (config : HostConfig), tree.Accepts path →
      config.readTimeoutMillis.toNat < Nat.pow 2 63 →
      ∃ after, saveSettings store path config tree = (.ok (), after) ∧
        loadSettings store path after = (.ok config, after)) ∧
    (∀ (tree : FileTree) (path : String) (config : HostConfig),
      Nat.pow 2 63 ≤ config.readTimeoutMillis.toNat →
      ∃ reason after, saveSettings store path config tree = (.error reason, after) ∧
        ∀ other content, tree.load other = .ok (some content) → after.load other = .ok (some content)) ∧
    (∀ (tree : FileTree) (path : String) (stored : HostConfig) (asked : HostConfig.Overrides),
      tree.Accepts path → (loadSettings store path tree).1 = .ok stored →
      (∀ millis, asked.readTimeoutMillis = some millis → millis.toNat < Nat.pow 2 63) →
      ∃ text after again, saveSettings store path (stored.apply asked) tree = (.ok (), after) ∧
        after.load path = .ok (some text) ∧
        loadSettings store path after = (.ok (stored.apply asked), after) ∧
        saveSettings store path ((stored.apply asked).apply asked) after = (.ok (), again) ∧
        again.load path = .ok (some text)) ∧
    ∀ (σ : Type) (surroundings : Surroundings σ) (tree : FileTree) (arguments : List String)
      (settings : CommandLine.Settings) (monitor : Option Monitor.Config) (stored : HostConfig),
      CommandLine.parse arguments = .ok ⟨.saveConfig, settings⟩ →
      Monitor.Config.choose settings.monitor settings.hex settings.json settings.filter = .ok monitor →
      let path := settings.config.getD surroundings.settingsPath
      let saved : Outcome := ⟨[.output s!"Saved configuration to {path}"], none⟩
      tree.Accepts path → (loadSettings store path tree).1 = .ok stored →
      (∀ millis, settings.timeoutMillis = some millis → millis.toNat < Nat.pow 2 63) →
      ∃ text after again, run store surroundings arguments tree = (saved, after) ∧
        after.load path = .ok (some text) ∧
        loadSettings store path after = (.ok (stored.apply (overrides settings)), after) ∧
        run store surroundings arguments after = (saved, again) ∧ again.load path = .ok (some text) := by
  refine ⟨?_, ?_, @saveSettings_twice, ?_⟩
  · intro tree path config accepts small
    obtain ⟨text, after, -, saved, -, reloaded, -⟩ := saveSettings_stores accepts small
    exact ⟨after, saved, reloaded⟩
  · intro tree path config large
    obtain ⟨reason, failed⟩ := saveSettings_of_large (HostConfig.render_of_large large)
    exact ⟨reason, _, failed, fun other content held => (FileTree.makeFolders_extends tree path).load held⟩
  · intro σ surroundings tree arguments settings monitor stored parsed chosen path saved accepts loaded given
    have requested : ∀ millis, (overrides settings).readTimeoutMillis = some millis →
        millis.toNat < Nat.pow 2 63 := given
    obtain ⟨text, after, again, stores, held, reloaded, restores, reheld⟩ :=
      saveSettings_twice accepts loaded requested
    exact ⟨text, after, again, run_saveConfig parsed chosen rfl (loadSettings_eq_ok loaded).1 stores, held,
      reloaded, run_saveConfig parsed chosen rfl reloaded restores, reheld⟩

theorem pieces_name : Path.pieces "c" = ["c"] := by
  rw [Path.pieces, String.splitOn, if_neg (by decide), String.splitOnAux, if_neg (by decide),
    if_neg (by decide), String.splitOnAux, if_pos (by decide)]
  decide

theorem find_name (content : ByteArray) :
    (FileTree.mk [("/c", .file content)] .root).find "c" = .ok (.file "/c" content) := by
  have relative : "c".startsWith "/" = false := by decide +kernel
  rw [FileTree.find, FileTree.start, pieces_name, relative]
  rfl

theorem accepts_name (content : ByteArray) : (FileTree.mk [("/c", .file content)] .root).Accepts "c" := by
  have named : ¬ "c".endsWith "/" = true := by decide +kernel
  have entered (tree : FileTree) : tree.makeFolders "c" = (.ok (), tree) := by
    rw [FileTree.makeFolders, Path.folder, pieces_name]
    rfl
  refine ⟨by rw [entered], fun other => ?_⟩
  rw [entered, FileTree.write_of_at named (find_name content) (.file content) other]

/-- Settings with a limit and other reserved codes. -/
def limited : HostConfig := { vid := 5, busyRetryLimit := some 3, reserved := ⟨0x9000, 5, 7⟩ }

def limitedText : String :=
  "vid = 5\npid = 17185\nread_timeout_ms = 5000\nack = false\nbusy_retry_limit = 3\n\n" ++
    "[reserved]\ndebug_message = 36864\nretry = 5\ndevice_status = 7\n"

theorem render_limited : limited.render = .ok limitedText := by rfl

/-- Acknowledgments and a timeout are added to the stored settings. -/
theorem settings_survive_beside_limit :
    let surroundings : Surroundings FileTree := ⟨.deviceless, ⟨[], .root⟩, "c", [], 0⟩
    let arguments := ["save-config", "--ack", "--timeout-ms", "900"]
    let settings : CommandLine.Settings := { ack := true, timeoutMillis := some 900 }
    let saved : Outcome := ⟨[.output "Saved configuration to c"], none⟩
    let tree : FileTree := ⟨[("/c", .file limitedText.toUTF8)], .root⟩
    CommandLine.parse arguments = .ok ⟨.saveConfig, settings⟩ ∧
      Monitor.Config.choose settings.monitor settings.hex settings.json settings.filter = .ok none ∧
      tree.Accepts "c" ∧ (loadSettings store "c" tree).1 = .ok limited ∧
      (∀ millis, settings.timeoutMillis = some millis → millis.toNat < Nat.pow 2 63) ∧
      ∃ text after again, run store surroundings arguments tree = (saved, after) ∧
        after.load "c" = .ok (some text) ∧
        loadSettings store "c" after = (.ok { limited with readTimeoutMillis := 900, ack := true }, after) ∧
        run store surroundings arguments after = (saved, again) ∧ again.load "c" = .ok (some text) := by
  intro surroundings arguments settings saved tree
  have accepts : tree.Accepts "c" := accepts_name _
  have loaded : (loadSettings store "c" tree).1 = .ok limited := by
    have held : tree.load "c" = .ok (some limitedText.toUTF8) :=
      FileTree.load_eq_some.mpr ⟨"/c", find_name _⟩
    rw [loadSettings_of_file held, HostConfig.read_render render_limited]
    rfl
  have given : ∀ millis, settings.timeoutMillis = some millis → millis.toNat < Nat.pow 2 63 := by
    rintro millis ⟨⟩
    decide
  exact ⟨rfl, rfl, accepts, loaded, given, settings_survive.2.2.2 FileTree surroundings tree arguments
    settings none limited rfl rfl accepts loaded given⟩

end PacketLink.Program
