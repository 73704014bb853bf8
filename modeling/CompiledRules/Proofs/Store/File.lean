import CompiledRules.Proofs.Store.Disk
import CompiledRules.Proofs.Store.UnitFile
import CompiledRules.Proofs.Table
import CompiledRules.Workspace

/-!
# Stores on disk are a map

Stores that share a directory answer as one map from identifiers to texts would, whatever files they find there and
however often they are opened anew. A file that holds no text of its identifier counts as none.
-/

namespace CompiledRules

/-- Texts by identifier. -/
abbrev Units := String → Option String

/-- Answers from the map, or produces a text and keeps it. -/
def Units.evaluate : Evaluator Units := fun units identifier produce =>
  match units identifier with
  | some text => ⟨.ok text, units, {}⟩
  | none =>
      match (produce ()).result with
      | .ok text => ⟨.ok text, fun key => if key = identifier then some text else units key, (produce ()).activity⟩
      | .error error => ⟨.error error, units, (produce ()).activity⟩

/-- Where the file of an identifier stands in a directory. -/
def unitPlace (directory : Path) (identifier : String) : Place := directory.place ++ [identifier ++ ".unit"]

/-- The texts that the files in a directory hold for the identifiers that they are named for. -/
def Disk.unitsAt (disk : Disk) (directory : Path) : Units := fun identifier =>
  match disk.entry? (unitPlace directory identifier) with
  | some (.file bytes) => (UnitFile.decode bytes identifier).toOption
  | _ => none

variable {disk disk' : Disk} {directory : Path} {store other : FileStore} {identifier key text : String}
  {produce : Unit → Production}

/-! ## The files of a directory -/

theorem unitPlace_ne (h : key ≠ identifier) : unitPlace directory key ≠ unitPlace directory identifier := by
  intro heq
  have hname : key ++ ".unit" = identifier ++ ".unit" := by simpa [unitPlace] using heq
  have hlist := congrArg String.toList hname
  rw [String.toList_append, String.toList_append] at hlist
  exact h (String.toList_inj.1 (List.append_cancel_right hlist))

namespace Disk

theorem unitsAt_of_file {bytes : Bytes} (h : disk.entry? (unitPlace directory identifier) = some (.file bytes)) :
    disk.unitsAt directory identifier = (UnitFile.decode bytes identifier).toOption := by
  rw [unitsAt, h]

theorem unitsAt_of_not_file (h : ∀ bytes, disk.entry? (unitPlace directory identifier) ≠ some (.file bytes)) :
    disk.unitsAt directory identifier = none := by
  rw [unitsAt]
  split
  · rename_i bytes hentry
    exact absurd hentry (h bytes)
  · rfl

theorem Extends.unitsAt (h : Extends disk disk') : disk'.unitsAt directory = disk.unitsAt directory := by
  funext key
  by_cases hfile : ∃ bytes, disk.entry? (unitPlace directory key) = some (.file bytes)
  · obtain ⟨bytes, hbytes⟩ := hfile
    rw [unitsAt_of_file hbytes, unitsAt_of_file (h.keeps hbytes)]
  · have hnot (bytes : Bytes) : disk.entry? (unitPlace directory key) ≠ some (.file bytes) :=
      fun hbytes => hfile ⟨bytes, hbytes⟩
    rw [unitsAt_of_not_file hnot, unitsAt_of_not_file fun bytes hbytes => hnot bytes (h.files hbytes)]

theorem unitsAt_congr (h : disk'.entry? (unitPlace directory key) = disk.entry? (unitPlace directory key)) :
    disk'.unitsAt directory key = disk.unitsAt directory key := by
  rw [unitsAt, unitsAt, h]

end Disk

namespace FileStore

/-- The name of a file has no slash, since its identifier has none. -/
theorem ofString_unitName (hid : Identifier.isIdentifier identifier) :
    Path.ofString (identifier ++ ".unit") = [identifier ++ ".unit"] := by
  rw [Identifier.isIdentifier, Bool.and_eq_true, List.all_eq_true] at hid
  refine Path.ofString_of_notMem fun hmem => ?_
  rw [String.toList_append, List.mem_append] at hmem
  rcases hmem with hmem | hmem
  · exact absurd (hid.2 _ hmem) (by decide)
  · exact absurd hmem (by decide)

theorem place_pathOf (hid : Identifier.isIdentifier identifier) :
    (store.pathOf identifier).place = unitPlace store.directory identifier := by
  have hlength : (identifier ++ ".unit").toList.length = 37 := by
    rw [Identifier.isIdentifier, Bool.and_eq_true, beq_iff_eq] at hid
    rw [String.toList_append, List.length_append, hid.1]
    rfl
  have hne (name : String) (hname : name.toList.length ≠ 37) : identifier ++ ".unit" ≠ name := by
    rintro rfl
    exact hname hlength
  have hidle : Path.isIdle (identifier ++ ".unit") = false := by
    simp [Path.isIdle, hne "" (by decide), hne "." (by decide)]
  rw [pathOf, ofString_unitName hid, Path.place_join_singleton hidle (hne ".." (by decide)), unitPlace]

theorem pathOf_congr (h : other.directory = store.directory) (identifier : String) :
    other.pathOf identifier = store.pathOf identifier := by
  rw [pathOf, pathOf, h]

theorem get?_of_read {bytes : Bytes} (h : disk.read (store.pathOf identifier) = .ok bytes) :
    store.get? disk identifier = (UnitFile.decode bytes identifier).toOption := by
  rw [get?, h]

theorem exists_read_of_get? (h : store.get? disk identifier = some text) :
    ∃ bytes, disk.read (store.pathOf identifier) = .ok bytes := by
  rw [get?] at h
  split at h
  · cases h
  · exact ⟨_, ‹_›⟩

theorem unitsAt_of_get? (hid : Identifier.isIdentifier identifier) (h : store.get? disk identifier = some text) :
    disk.unitsAt store.directory identifier = some text := by
  obtain ⟨bytes, hread⟩ := exists_read_of_get? h
  have hentry := (Disk.read_eq_ok_iff.1 hread).2
  rw [place_pathOf hid] at hentry
  rw [Disk.unitsAt_of_file hentry, ← get?_of_read hread, h]

/-! ## Saving -/

theorem of_save (h : store.save disk identifier text = (.ok (), disk')) : ∃ made, Disk.Extends disk made ∧
    made.write (store.pathOf identifier) (UnitFile.encode identifier text) = .ok disk' := by
  refine ⟨disk.makeDirectories store.directory, Disk.extends_makeDirectories _ _, ?_⟩
  rw [save] at h
  split at h
  · rename_i hwrite
    cases h
    obtain ⟨-, -, hwritten⟩ := Except.bind_eq_ok_iff.1 hwrite
    obtain ⟨-, -, hwrite⟩ := Except.bind_eq_ok_iff.1 (Except.mapError_eq_ok_iff.1 hwritten)
    exact hwrite
  · cases h

/-- An error names the directory and why there is none, or else the file in it. -/
theorem of_not_save {error : WriteError} (h : store.save disk identifier text = (.error error, disk')) :
    let checked := (disk.makeDirectories store.directory).checkDirectory store.directory
    error.path = store.directory ∧ checked = .error error.cause ∨
      error.path = store.pathOf identifier ∧ checked = .ok () := by
  rw [save] at h
  split at h
  · cases h
  · rename_i hsaved
    cases h
    rcases Except.bind_eq_error_iff.1 hsaved with hnone | ⟨_, hmade, hwritten⟩
    · obtain ⟨cause, hcause, rfl⟩ := Except.mapError_eq_error_iff.1 hnone
      exact .inl ⟨rfl, hcause⟩
    · obtain ⟨cause, -, rfl⟩ := Except.mapError_eq_error_iff.1 hwritten
      exact .inr ⟨rfl, Except.mapError_eq_ok_iff.1 hmade⟩

/-- A file where the directory should be, and a directory where the file should be. -/
example :
    (save { directory := ["d"] } ⟨[(["d"], .file [])]⟩ "a" "").1 = .error ⟨["d"], .fileExists⟩ ∧
      (save { directory := ["d"] } ⟨[(["d"], .directory), (["d", "a.unit"], .directory)]⟩ "a" "").1 =
        .error ⟨["d", "a.unit"], .isDirectory⟩ :=
  ⟨rfl, rfl⟩

section

variable (h : store.save disk identifier text = (.ok (), disk'))
include h

theorem get?_save_self (hshort : (UnitFile.encodePayload identifier text).length < 0x100000000)
    (hdirectory : other.directory = store.directory) : other.get? disk' identifier = some text := by
  obtain ⟨made, -, hwrite⟩ := of_save h
  have hread := Disk.read_write_self hwrite
  rw [← pathOf_congr hdirectory] at hread
  rw [get?_of_read hread, UnitFile.decode_encode hshort]
  rfl

theorem get?_save_of_ne (hid : Identifier.isIdentifier identifier) (hkey : Identifier.isIdentifier key)
    (hne : key ≠ identifier) (hdirectory : other.directory = store.directory) {found : String}
    (hfound : other.get? disk key = some found) : other.get? disk' key = some found := by
  obtain ⟨made, hmade, hwrite⟩ := of_save h
  obtain ⟨bytes, hread⟩ := exists_read_of_get? hfound
  have hplace : (other.pathOf key).place ≠ (store.pathOf identifier).place := by
    rw [place_pathOf hkey, place_pathOf hid, hdirectory]
    exact unitPlace_ne hne
  rw [get?_of_read (Disk.read_write_of_ne hwrite hplace (hmade.read hread)), ← get?_of_read hread, hfound]

theorem unitsAt_save (hid : Identifier.isIdentifier identifier)
    (hshort : (UnitFile.encodePayload identifier text).length < 0x100000000) :
    disk'.unitsAt store.directory =
      fun key => if key = identifier then some text else disk.unitsAt store.directory key := by
  obtain ⟨made, hmade, hwrite⟩ := of_save h
  funext key
  split
  · rename_i hkey
    subst hkey
    exact unitsAt_of_get? hid (get?_save_self h hshort rfl)
  · rename_i hkey
    have hplace : unitPlace store.directory key ≠ (store.pathOf identifier).place := by
      rw [place_pathOf hid]
      exact unitPlace_ne hkey
    rw [← hmade.unitsAt]
    exact Disk.unitsAt_congr (Disk.entry?_write_of_ne hwrite hplace)

end

/-! ## One call -/

theorem fst_lookUp (store : FileStore) (disk : Disk) (identifier : String) :
    (store.lookUp disk identifier).1 = store.get? disk identifier := by
  rw [lookUp, get?]
  split
  · rename_i hread
    rw [hread]
  · rename_i hread
    rw [hread]
  · rename_i hread
    rw [hread]
    dsimp only
    split
    · rename_i hdecode
      rw [hdecode]
      rfl
    · rename_i hdecode
      rw [hdecode]
      rfl

theorem productions_lookUp (store : FileStore) (disk : Disk) (identifier : String) :
    (store.lookUp disk identifier).2.productions = 0 := by
  rw [lookUp]
  split
  · rfl
  · rfl
  · split <;> rfl

/-- What a call can come to, if the store has seen nothing but what its files hold. -/
inductive Outcome (store : FileStore) (disk : Disk) (identifier : String) (production : Production) :
    Evaluation (FileStore × Disk) → Prop where
  | seen {text activity} (hget : store.get? disk identifier = some text) (hidle : activity.productions = 0) :
      Outcome store disk identifier production ⟨.ok text, (store, disk), activity⟩
  | found {text activity} (hget : store.get? disk identifier = some text) (hidle : activity.productions = 0) :
      Outcome store disk identifier production ⟨.ok text, (store.see identifier text, disk), activity⟩
  | failed {error activity} (hget : store.get? disk identifier = none) (hproduced : production.result = .error error)
      (honce : activity.productions = production.activity.productions) :
      Outcome store disk identifier production ⟨.error error, (store, disk), activity⟩
  | saved {text activity disk'} (hget : store.get? disk identifier = none) (hproduced : production.result = .ok text)
      (honce : activity.productions = production.activity.productions)
      (hsave : store.save disk identifier text = (.ok (), disk')) :
      Outcome store disk identifier production ⟨.ok text, (store.see identifier text, disk'), activity⟩
  | unsaved {text error disk' result activity} (hget : store.get? disk identifier = none)
      (hproduced : production.result = .ok text) (hsave : store.save disk identifier text = (.error error, disk')) :
      Outcome store disk identifier production ⟨result, (store, disk'), activity⟩

theorem evaluate_outcome
    (hseen : ∀ text, store.seen.find? identifier = some text → store.get? disk identifier = some text) :
    Outcome store disk identifier (produce ()) (evaluate (store, disk) identifier produce) := by
  have hfst := fst_lookUp store disk identifier
  have hidle := productions_lookUp store disk identifier
  simp only [evaluate]
  split
  · rename_i text hfind
    exact .seen (hseen text hfind) rfl
  · split
    · rename_i hlook
      rw [hlook] at hfst hidle
      exact .found hfst.symm hidle
    · rename_i activity hlook
      rw [hlook] at hfst hidle
      have honce : (activity ++ Activity.event (.notOnDisk identifier) ++ (produce ()).activity).productions =
          (produce ()).activity.productions := by
        calc (activity ++ Activity.event (.notOnDisk identifier) ++ (produce ()).activity).productions
            = activity.productions + 0 + (produce ()).activity.productions := rfl
          _ = (produce ()).activity.productions := by rw [show activity.productions = 0 from hidle, Nat.zero_add]
      split
      · rename_i hproduced
        exact .failed hfst.symm hproduced honce
      · rename_i hproduced
        split
        · rename_i hsave
          exact .unsaved hfst.symm hproduced hsave
        · rename_i hsave
          exact .saved hfst.symm hproduced honce hsave

/-- The store is one of the directory, and has seen nothing but what files there hold. -/
structure Mirrors (directory : Path) (disk : Disk) (store : FileStore) : Prop where
  directory : store.directory = directory
  seen : ∀ key text, store.seen.find? key = some text →
    Identifier.isIdentifier key ∧ store.get? disk key = some text

/-- All that the disk is asked for in a call succeeds: a file that stands where the text is looked for is read, and a text
that is produced is written. The header of the file can hold the length of its payload. -/
structure Works (store : FileStore) (disk : Disk) (identifier : String) (result : Except CompileError String) :
    Prop where
  reads : ∀ bytes, disk.entry? (unitPlace store.directory identifier) = some (.file bytes) →
    disk.read (store.pathOf identifier) = .ok bytes
  writes : store.get? disk identifier = none → ∀ text, result = .ok text →
    (store.save disk identifier text).1 = .ok ()
  short : store.get? disk identifier = none → ∀ text, result = .ok text →
    (UnitFile.encodePayload identifier text).length < 0x100000000

theorem Works.unitsAt {result : Except CompileError String} (h : Works store disk identifier result)
    (hget : store.get? disk identifier = none) :
    disk.unitsAt store.directory identifier = none := by
  by_cases hfile : ∃ bytes, disk.entry? (unitPlace store.directory identifier) = some (.file bytes)
  · obtain ⟨bytes, hbytes⟩ := hfile
    rw [Disk.unitsAt_of_file hbytes, ← get?_of_read (h.reads bytes hbytes), hget]
  · exact Disk.unitsAt_of_not_file fun bytes hbytes => hfile ⟨bytes, hbytes⟩

/-- Where the text is found, nothing else is asked for. -/
theorem Works.of_get? (hid : Identifier.isIdentifier identifier) (h : store.get? disk identifier = some text)
    (result : Except CompileError String) : Works store disk identifier result := by
  obtain ⟨bytes, hread⟩ := exists_read_of_get? h
  obtain ⟨hlocate, -⟩ := Disk.read_eq_ok_iff.1 hread
  refine ⟨fun bytes' hentry => ?_, fun hnone => ?_, fun hnone => ?_⟩
  · rw [← place_pathOf hid] at hentry
    exact Disk.read_eq_ok_iff.2 ⟨hlocate, hentry⟩
  · exact absurd (h.symm.trans hnone) nofun
  · exact absurd (h.symm.trans hnone) nofun

theorem Mirrors.empty (directory : Path) (disk : Disk) : Mirrors directory disk { directory } :=
  ⟨rfl, fun _ _ h => nomatch h⟩

theorem Mirrors.see (h : Mirrors directory disk store) (hid : Identifier.isIdentifier identifier)
    (hget : store.get? disk identifier = some text) : Mirrors directory disk (store.see identifier text) := by
  refine ⟨h.directory, fun key found hfind => ?_⟩
  rw [FileStore.see, Table.find?_insert] at hfind
  split at hfind
  · rename_i hkey
    subst hkey
    cases hfind
    exact ⟨hid, hget⟩
  · exact h.seen key found hfind

/-- What other stores have seen is not what is written, since they would have found it. -/
theorem Mirrors.save (h : Mirrors directory disk other) (hstore : store.directory = directory)
    (hid : Identifier.isIdentifier identifier) (hget : store.get? disk identifier = none)
    (hsave : store.save disk identifier text = (.ok (), disk')) : Mirrors directory disk' other := by
  have hdirectory : other.directory = store.directory := h.directory.trans hstore.symm
  refine ⟨h.directory, fun key found hfind => ?_⟩
  obtain ⟨hkey, hfound⟩ := h.seen key found hfind
  have hne : key ≠ identifier := by
    rintro rfl
    rw [get?, pathOf_congr hdirectory, ← get?, hget] at hfound
    cases hfound
  exact ⟨hkey, get?_save_of_ne hsave hid hkey hne hdirectory hfound⟩

/-- A call comes to the same as on the map of the texts in the directory, and leaves the map after the call. -/
structure Agrees (directory : Path) (disk : Disk) (identifier : String) (answer : Evaluation (FileStore × Disk))
    (expected : Evaluation Units) : Prop where
  result : answer.result = expected.result
  productions : answer.activity.productions = expected.activity.productions
  units : answer.state.2.unitsAt directory = expected.state
  mirrors : Mirrors directory answer.state.2 answer.state.1
  others : ∀ {other : FileStore}, Mirrors directory disk other → Mirrors directory answer.state.2 other
  kept : ∀ text, answer.result = .ok text → ∀ other : FileStore, other.directory = directory →
    other.get? answer.state.2 identifier = some text

theorem Mirrors.evaluate (h : Mirrors directory disk store) (hid : Identifier.isIdentifier identifier)
    (hworks : Works store disk identifier (produce ()).result) :
    Agrees directory disk identifier (FileStore.evaluate (store, disk) identifier produce)
      (Units.evaluate (disk.unitsAt directory) identifier produce) := by
  have hdirectory := h.directory
  subst hdirectory
  have hkept {text : String} (hget : store.get? disk identifier = some text) (other : FileStore)
      (hother : other.directory = store.directory) : other.get? disk identifier = some text := by
    rw [get?, pathOf_congr hother, ← get?, hget]
  have houtcome : Outcome store disk identifier (produce ()) (FileStore.evaluate (store, disk) identifier produce) :=
    evaluate_outcome fun text hfind => (h.seen identifier text hfind).2
  generalize FileStore.evaluate (store, disk) identifier produce = answer at houtcome ⊢
  cases houtcome with
  | seen hget hidle =>
      have hunits := unitsAt_of_get? hid hget
      simp only [Units.evaluate, hunits]
      exact ⟨rfl, hidle, rfl, h, id, fun _ hresult => by cases hresult; exact hkept hget⟩
  | found hget hidle =>
      have hunits := unitsAt_of_get? hid hget
      simp only [Units.evaluate, hunits]
      exact ⟨rfl, hidle, rfl, h.see hid hget, id, fun _ hresult => by cases hresult; exact hkept hget⟩
  | failed hget hproduced honce =>
      have hunits := hworks.unitsAt hget
      simp only [Units.evaluate, hunits, hproduced]
      exact ⟨rfl, honce, rfl, h, id, fun _ hresult => nomatch hresult⟩
  | @saved text _ _ hget hproduced honce hsave =>
      have hunits := hworks.unitsAt hget
      have hshort := hworks.short hget text hproduced
      simp only [Units.evaluate, hunits, hproduced]
      have hstore : Mirrors store.directory _ store := h.save rfl hid hget hsave
      exact ⟨rfl, honce, unitsAt_save hsave hid hshort, hstore.see hid (get?_save_self hsave hshort rfl),
        fun hother => hother.save rfl hid hget hsave,
        fun _ hresult other hother => by cases hresult; exact get?_save_self hsave hshort hother⟩
  | unsaved hget hproduced hsave =>
      have hsaved := hworks.writes hget _ hproduced
      rw [hsave] at hsaved
      cases hsaved

end FileStore

/-! ## Every history -/

namespace Workspace

/-- A workspace after any number of stores were opened on one directory of a disk, opened anew and asked, one call at a
time, and the map that was asked the same, which began as the texts in that directory. -/
inductive SharesDirectory (directory : Path) : Workspace → Units → Prop where
  | start (disk : Disk) : SharesDirectory directory { disk } (disk.unitsAt directory)
  | opened {workspace units} (h : SharesDirectory directory workspace units) :
      SharesDirectory directory (workspace.addStore (.file { directory })).2 units
  | reopened {workspace units} (h : SharesDirectory directory workspace units) (number : Nat) :
      SharesDirectory directory { workspace with stores := workspace.stores.set number (.file { directory }) } units
  | asked {workspace units} (h : SharesDirectory directory workspace units) {number : Nat} {store : FileStore}
      {identifier : String} {produce : Unit → Production} (hstore : workspace.store? number = some (.file store))
      (hid : Identifier.isIdentifier identifier) (hworks : store.Works workspace.disk identifier (produce ()).result) :
      SharesDirectory directory (workspace.evaluate number identifier produce).state
        (Units.evaluate units identifier produce).state

variable {workspace : Workspace} {units : Units} {number : Nat}

/-- The directory holds the map, and every store mirrors the directory. -/
structure HoldsUnits (directory : Path) (workspace : Workspace) (units : Units) : Prop where
  units : workspace.disk.unitsAt directory = units
  stores : ∀ store ∈ workspace.stores, ∃ file, store = .file file ∧ file.Mirrors directory workspace.disk

theorem evaluate_file (hstore : workspace.store? number = some (.file store)) (identifier : String)
    (produce : Unit → Production) :
    workspace.evaluate number identifier produce =
      let answer := FileStore.evaluate (store, workspace.disk) identifier produce
      ⟨answer.result,
        { workspace with stores := workspace.stores.set number (.file answer.state.1), disk := answer.state.2 },
        answer.activity⟩ := by
  simp only [evaluate, hstore, Store.evaluate]

theorem HoldsUnits.agrees (h : HoldsUnits directory workspace units)
    (hstore : workspace.store? number = some (.file store)) (hid : Identifier.isIdentifier identifier)
    (hworks : store.Works workspace.disk identifier (produce ()).result) :
    FileStore.Agrees directory workspace.disk identifier
      (FileStore.evaluate (store, workspace.disk) identifier produce) (Units.evaluate units identifier produce) := by
  obtain ⟨file, heq, hmirrors⟩ := h.stores _ (List.mem_of_getElem? hstore)
  cases heq
  rw [← h.units]
  exact hmirrors.evaluate hid hworks

theorem SharesDirectory.holdsUnits (h : SharesDirectory directory workspace units) :
    HoldsUnits directory workspace units := by
  induction h with
  | start disk => exact ⟨rfl, fun _ hmem => nomatch hmem⟩
  | opened _ ih =>
      refine ⟨ih.units, fun store hmem => ?_⟩
      rcases List.mem_append.1 hmem with hmem | hmem
      · exact ih.stores store hmem
      · cases List.mem_singleton.1 hmem
        exact ⟨_, rfl, .empty _ _⟩
  | reopened _ number ih =>
      refine ⟨ih.units, fun store hmem => ?_⟩
      rcases List.mem_or_eq_of_mem_set hmem with hmem | rfl
      · exact ih.stores store hmem
      · exact ⟨_, rfl, .empty _ _⟩
  | asked _ hstore hid hworks ih =>
      have hagrees := ih.agrees hstore hid hworks
      rw [evaluate_file hstore]
      refine ⟨hagrees.units, fun other hmem => ?_⟩
      rcases List.mem_or_eq_of_mem_set hmem with hmem | rfl
      · obtain ⟨file, rfl, hmirrors⟩ := ih.stores other hmem
        exact ⟨file, rfl, hagrees.others hmirrors⟩
      · exact ⟨_, rfl, hagrees.mirrors⟩

/-- Whatever the files in a directory, and whatever was asked of stores on it and how often they were opened anew: a
call comes to what the map comes to and produces a text as often, and each store on the directory then holds the
answer. -/
theorem evaluate_eq_units (h : SharesDirectory directory workspace units)
    (hstore : workspace.store? number = some (.file store)) (hid : Identifier.isIdentifier identifier)
    (hworks : store.Works workspace.disk identifier (produce ()).result) :
    (workspace.evaluate number identifier produce).result = (Units.evaluate units identifier produce).result ∧
      (workspace.evaluate number identifier produce).activity.productions =
        (Units.evaluate units identifier produce).activity.productions ∧
      ∀ text, (workspace.evaluate number identifier produce).result = .ok text →
        ∀ other : FileStore, other.directory = directory →
          other.get? (workspace.evaluate number identifier produce).state.disk identifier = some text := by
  have hagrees := h.holdsUnits.agrees hstore hid hworks
  rw [evaluate_file hstore]
  exact ⟨hagrees.result, hagrees.productions, hagrees.kept⟩

/-- An identifier whose file in `spoiled` is not that of a unit. -/
def spoiledIdentifier : String := "00112233445566778899aabbccddeeff"

/-- A store on a directory with one file of three bytes. -/
def spoiled : Workspace where
  disk := ⟨[(["units"], .directory), (["units", spoiledIdentifier ++ ".unit"], .file [0x52, 0x4B, 0x55])]⟩
  stores := [.file { directory := ["units"] }]

/-- Produces one text. -/
def produceText (text : String) : Unit → Production := fun _ => ⟨.ok text, { productions := 1 }⟩

/-- A spoiled file is passed over and written anew, and a store that is opened after that answers from it. -/
theorem evaluate_eq_units_spoiled : ∃ workspace units, SharesDirectory ["units"] workspace units ∧
    spoiled.disk.unitsAt ["units"] spoiledIdentifier = none ∧ units spoiledIdentifier = some "unit" ∧
    workspace.store? 0 = some (.file { directory := ["units"] }) ∧
    (workspace.evaluate 0 spoiledIdentifier (produceText "other")).result = .ok "unit" ∧
    (workspace.evaluate 0 spoiledIdentifier (produceText "other")).activity.productions = 0 := by
  have hid : Identifier.isIdentifier spoiledIdentifier := by decide +kernel
  have hspoiled : spoiled.disk.unitsAt ["units"] spoiledIdentifier = none := by decide +kernel
  have hstart : SharesDirectory ["units"] spoiled (spoiled.disk.unitsAt ["units"]) := .opened (.start spoiled.disk)
  have hstore : spoiled.store? 0 = some (.file { directory := ["units"] }) := rfl
  have hworks : FileStore.Works { directory := ["units"] } spoiled.disk spoiledIdentifier
      (produceText "unit" ()).result := by
    have hlocate : spoiled.disk.locate (FileStore.pathOf { directory := ["units"] } spoiledIdentifier) =
        .ok (FileStore.pathOf { directory := ["units"] } spoiledIdentifier).place := by rfl
    constructor
    · intro bytes hentry
      rw [← FileStore.place_pathOf hid] at hentry
      exact Disk.read_eq_ok_iff.2 ⟨hlocate, hentry⟩
    · rintro - text ⟨⟩
      rfl
    · rintro - text ⟨⟩
      decide +kernel
  have hfirst : Units.evaluate (spoiled.disk.unitsAt ["units"]) spoiledIdentifier (produceText "unit") =
      ⟨.ok "unit", fun key => if key = spoiledIdentifier then some "unit" else spoiled.disk.unitsAt ["units"] key,
        { productions := 1 }⟩ := by
    rw [Units.evaluate, hspoiled]
    rfl
  obtain ⟨hresult, -, hkept⟩ := evaluate_eq_units hstart hstore hid hworks
  have hget := hkept "unit" (by rw [hresult, hfirst]) { directory := ["units"] } rfl
  -- The first call has written the file; now the store is opened anew.
  have hreopened := (hstart.asked hstore hid hworks).reopened 0
  rw [hfirst] at hreopened
  obtain ⟨hresult, hproductions, -⟩ := evaluate_eq_units hreopened (show store? _ 0 = _ from rfl) hid
    (FileStore.Works.of_get? hid hget (produceText "other" ()).result)
  exact ⟨_, _, hreopened, hspoiled, by simp, rfl, hresult.trans (by simp [Units.evaluate]),
    hproductions.trans (by simp [Units.evaluate])⟩

end Workspace

end CompiledRules
