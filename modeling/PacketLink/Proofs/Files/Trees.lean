import PacketLink.Files.Tree

namespace PacketLink.FileTree

/-! Laws of the files in a tree. What is written is loaded again, folders that are made leave all files as
they are, and a path that was written to once can be written to again. -/

variable {tree after more : FileTree} {path : String} {pieces : List String} {here place other : Place}
  {entry : Entry} {content : ByteArray} {found : Found}

theorem get?_root : tree.get? .root = some .folder := if_pos rfl

/-- Only the root is a folder in every tree. -/
theorem ne_root (unheld : tree.get? place ≠ some .folder) : place ≠ .root := by
  rintro rfl
  exact unheld get?_root

theorem get?_put_same (unheld : tree.get? place ≠ some .folder) :
    (tree.put place entry).get? place = some entry := by
  simp [get?, put, ne_root unheld]

theorem get?_put_other (differs : other ≠ place) :
    (tree.put place entry).get? other = tree.get? other := by
  simp [get?, put, differs.symm]

/-! ## Following a path -/

/-- What stands at the end of a path is what the tree has there. -/
inductive Shows (tree : FileTree) : Found → Prop
  | folder (here : Place) : Shows tree (.folder here)
  | file {here : Place} {bytes : ByteArray} (held : tree.get? here = some (.file bytes)) :
      Shows tree (.file here bytes)
  | free {here : Place} (unheld : tree.get? here = none) : Shows tree (.free here)

theorem follow_shows (followed : tree.follow here pieces = .ok found) : tree.Shows found := by
  fun_induction follow tree here pieces with
  | case1 here =>
      cases followed
      exact .folder here
  | case2 here piece rest stays ih | case3 here rest stays ih => exact ih followed
  | case5 here piece rest moves descends short held ih => exact ih followed
  | case6 here piece moves descends short content held =>
      cases followed
      exact .file held
  | case8 here piece moves descends short free =>
      cases followed
      exact .free free
  | case4 | case7 | case9 => cases followed

/-- A file, or a place for one. -/
inductive Found.At (place : Place) : Found → Prop
  | file (content : ByteArray) : At place (.file place content)
  | free : At place (.free place)

theorem Found.At.not_folder (stands : found.At place) (shown : tree.Shows found) :
    tree.get? place ≠ some .folder := by
  cases stands with
  | file content =>
      cases shown with
      | file held => simp [held]
  | free =>
      cases shown with
      | free unheld => simp [unheld]

/-- Only folders are passed on the way, so the path leads to the same place in each tree that has them. -/
theorem follow_of_folders
    (folders : ∀ place, tree.get? place = some .folder → more.get? place = some .folder)
    (followed : tree.follow here pieces = .ok found) (stands : found.At place)
    (held : more.get? place = some (.file content)) :
    more.follow here pieces = .ok (.file place content) := by
  fun_induction follow tree here pieces with
  | case1 here =>
      cases followed
      cases stands
  | case2 here piece rest stays ih =>
      unfold follow
      simpa [stays] using ih followed
  | case3 here rest moves ih =>
      unfold follow
      simpa [moves] using ih followed
  | case5 here piece rest moves descends short passed ih =>
      unfold follow
      simpa [moves, descends, short, folders _ passed] using ih followed
  | case6 here piece moves descends short content passed | case8 here piece moves descends short free =>
      cases followed
      cases stands
      unfold follow
      simp [moves, descends, short, held]
  | case4 | case7 | case9 => cases followed

/-! ## Folders that are made -/

/-- All that is in one tree is in the other. -/
structure Extends (tree more : FileTree) : Prop where
  kept : ∀ place entry, tree.get? place = some entry → more.get? place = some entry
  working : more.working = tree.working

namespace Extends

theorem refl (tree : FileTree) : Extends tree tree := ⟨fun _ _ => id, rfl⟩

theorem trans (first : Extends tree after) (second : Extends after more) : Extends tree more :=
  ⟨fun place entry held => second.kept place entry (first.kept place entry held),
    second.working.trans first.working⟩

theorem put (free : tree.get? place = none) : Extends tree (tree.put place entry) := by
  refine ⟨fun other entry held => ?_, rfl⟩
  rw [get?_put_other, held]
  rintro rfl
  simp [free] at held

theorem folders (extended : Extends tree more) :
    ∀ place, tree.get? place = some .folder → more.get? place = some .folder :=
  fun place held => extended.kept place .folder held

end Extends

theorem enterAll_extends (tree : FileTree) (made : Bool) (here : Place) (pieces : List String) :
    Extends tree (tree.enterAll made here pieces).2 := by
  fun_induction enterAll tree made here pieces with
  | case1 tree made here => exact .refl tree
  | case2 _ _ _ _ _ _ ih | case3 _ _ _ _ _ ih | case5 _ _ _ _ _ _ _ _ _ ih => exact ih
  | case4 tree | case6 tree => exact .refl tree
  | case7 tree made here piece rest moves descends short free ih => exact (Extends.put free).trans ih

/-- Where all folders have been made, they are entered and nothing changes. -/
theorem enterAll_again {made again : Bool} (entered : tree.enterAll made here pieces = (.ok (), after))
    (folders : ∀ place, after.get? place = some .folder → more.get? place = some .folder) :
    more.enterAll again here pieces = (.ok (), more) := by
  have extended := enterAll_extends tree made here pieces
  rw [entered] at extended
  fun_induction enterAll tree made here pieces generalizing again with
  | case1 tree made here => rfl
  | case2 tree made here piece rest stays ih =>
      unfold enterAll
      simpa [stays] using ih entered extended
  | case3 tree made here rest moves ih =>
      unfold enterAll
      simpa [moves] using ih entered extended
  | case5 tree made here piece rest moves descends short held ih =>
      unfold enterAll
      simpa [moves, descends, short, folders _ (extended.folders _ held)] using ih entered extended
  | case7 tree made here piece rest moves descends short free ih =>
      have later := enterAll_extends (tree.put (here.child piece) .folder) true (here.child piece) rest
      rw [entered] at later
      have held := later.folders _ (get?_put_same (by simp [free]))
      unfold enterAll
      simpa [moves, descends, short, folders _ held] using ih entered later
  | case4 | case6 => cases entered

theorem start_eq (same : more.working = tree.working) : more.start path = tree.start path := by
  simp [start, same]

theorem makeFolders_extends (tree : FileTree) (path : String) :
    Extends tree (tree.makeFolders path).2 := by
  unfold makeFolders
  dsimp only
  split
  · exact .refl tree
  · exact enterAll_extends ..

theorem makeFolders_again (entered : tree.makeFolders path = (.ok (), after))
    (same : more.working = after.working)
    (folders : ∀ place, after.get? place = some .folder → more.get? place = some .folder) :
    more.makeFolders path = (.ok (), more) := by
  have extended := makeFolders_extends tree path
  rw [entered] at extended
  unfold makeFolders at entered ⊢
  dsimp only at entered ⊢
  split at entered
  · cases entered
  · rename_i short
    rw [if_neg short, start_eq (same.trans extended.working)]
    exact enterAll_again entered folders

/-! ## Files -/

theorem find_eq_ok : tree.find path = .ok found ↔ ¬ path.isEmpty ∧
    ¬ path.utf8ByteSize > Path.longest ∧ tree.follow (tree.start path) (Path.pieces path) = .ok found := by
  unfold find
  split
  · rename_i empty
    simp [empty]
  · rename_i nonempty
    split
    · rename_i long
      simp [long]
    · rename_i short
      simp [nonempty, short]

theorem find_shows (followed : tree.find path = .ok found) : tree.Shows found :=
  follow_shows (find_eq_ok.mp followed).2.2

theorem find_of_folders (same : more.working = tree.working)
    (folders : ∀ place, tree.get? place = some .folder → more.get? place = some .folder)
    (followed : tree.find path = .ok found) (stands : found.At place)
    (held : more.get? place = some (.file content)) : more.find path = .ok (.file place content) := by
  obtain ⟨nonempty, short, walked⟩ := find_eq_ok.mp followed
  rw [← start_eq same] at walked
  exact find_eq_ok.mpr ⟨nonempty, short, follow_of_folders folders walked stands held⟩

theorem load_eq_some : tree.load path = .ok (some content) ↔
    ∃ place, tree.find path = .ok (.file place content) := by
  unfold load
  split <;> simp_all

/-- A file that was loaded from a tree is loaded from each tree that has more. -/
theorem Extends.load (extended : Extends tree more) (loaded : tree.load path = .ok (some content)) :
    more.load path = .ok (some content) := by
  obtain ⟨place, followed⟩ := load_eq_some.mp loaded
  have held : tree.get? place = some (.file content) := by
    cases find_shows followed with
    | file held => exact held
  exact load_eq_some.mpr ⟨place, find_of_folders extended.working extended.folders followed (.file content)
    (extended.kept _ _ held)⟩

/-- A write that is accepted puts the content where the path leads. -/
theorem write_eq_ok (written : tree.write path content = (.ok (), after)) :
    ¬ path.endsWith "/" ∧ ∃ found place, tree.find path = .ok found ∧ found.At place ∧
      after = tree.put place (.file content) := by
  unfold write at written
  split at written
  · split at written
    · cases written
    · split at written <;> cases written
  · rename_i named
    split at written
    · cases written
    · cases written
    · rename_i place bytes followed
      cases written
      exact ⟨named, _, place, followed, .file bytes, rfl⟩
    · rename_i place followed
      cases written
      exact ⟨named, _, place, followed, .free, rfl⟩

theorem write_of_at (named : ¬ path.endsWith "/") (followed : tree.find path = .ok found)
    (stands : found.At place) (content : ByteArray) :
    tree.write path content = (.ok (), tree.put place (.file content)) := by
  cases stands <;> simp [write, named, followed]

/-- The folders on the way can be made, and the file can be written to. -/
structure Accepts (tree : FileTree) (path : String) : Prop where
  folders : (tree.makeFolders path).1 = .ok ()
  file : ∀ content, ((tree.makeFolders path).2.write path content).1 = .ok ()

/-- What is stored is loaded again, and the path goes on to accept what is stored there. -/
theorem Accepts.stores (accepts : tree.Accepts path) (content : ByteArray) :
    ∃ made after, tree.makeFolders path = (.ok (), made) ∧ made.write path content = (.ok (), after) ∧
      after.load path = .ok (some content) ∧ after.Accepts path := by
  obtain ⟨made, entered⟩ : ∃ made, tree.makeFolders path = (.ok (), made) :=
    ⟨_, Prod.ext accepts.folders rfl⟩
  have written := accepts.file content
  rw [entered] at written
  obtain ⟨named, found, place, followed, stands, -⟩ :=
    write_eq_ok (Prod.ext written rfl : made.write path content = (.ok (), _))
  have unheld := stands.not_folder (find_shows followed)
  have folders : ∀ other, made.get? other = some .folder →
      (made.put place (.file content)).get? other = some .folder := by
    intro other held
    rw [get?_put_other, held]
    rintro rfl
    exact unheld held
  have again : (made.put place (.file content)).find path = .ok (.file place content) := by
    apply find_of_folders _ folders followed stands (get?_put_same unheld)
    rfl
  refine ⟨made, _, entered, write_of_at named followed stands content, load_eq_some.mpr ⟨place, again⟩, ?_⟩
  have unchanged : (made.put place (.file content)).makeFolders path =
      (.ok (), made.put place (.file content)) := by
    apply makeFolders_again entered _ folders
    rfl
  refine ⟨by rw [unchanged], fun other => ?_⟩
  rw [unchanged, write_of_at named again (.file content)]

end PacketLink.FileTree
