import CompiledRules.Proofs.Except
import CompiledRules.Store.Disk

/-!
# What a disk keeps

The place that a path leads to does not depend on the disk, only whether the way is open does. Making directories
keeps all that stands, and writing a file changes what stands at one place.
-/

namespace CompiledRules

/-! ## Places -/

/-- The place that a path leads to, if the way there is open. -/
def Path.place (path : Path) : Place := path.foldl Place.enter (Place.start path)

namespace Path

theorem splitAt_of_notMem {separator : Char} {text : Text} (h : separator ∉ text) :
    Text.splitAt separator text = [text] := by
  induction text with
  | nil => rfl
  | cons c rest ih =>
      obtain ⟨hc, hrest⟩ := not_or.1 (mt List.mem_cons.2 h)
      rw [Text.splitAt, if_neg (Ne.symm hc), ih hrest]

theorem ofString_of_notMem {name : String} (h : '/' ∉ name.toList) : ofString name = [name] := by
  rw [ofString, splitAt_of_notMem h, List.map_singleton, String.ofList_toList]

theorem isAbsolute_join_singleton (directory : Path) (name : String) :
    (directory.join [name]).isAbsolute = directory.isAbsolute := by
  have hname : isAbsolute [name] = false := by simp [isAbsolute]
  simp only [join, hname, Bool.false_eq_true, ↓reduceIte]
  match directory with
  | [] => exact hname
  | [a] =>
      by_cases ha : a = ""
      · subst ha
        exact hname
      · simp [isAbsolute, ha]
  | a :: b :: rest =>
      by_cases ha : a = ""
      · subst ha
        split
        · cases rest <;> simp [isAbsolute]
        · rfl
      · split <;> simp [isAbsolute, ha]

/-- A name in a directory leads to a place right below that of the directory. -/
theorem place_join_singleton {name : String} (hidle : isIdle name = false) (hup : name ≠ "..") (directory : Path) :
    (directory.join [name]).place = directory.place ++ [name] := by
  have hstart : Place.start (directory.join [name]) = Place.start directory := by
    rw [Place.start, isAbsolute_join_singleton, Place.start]
  have henter (p : Place) : p.enter name = p ++ [name] := by simp [Place.enter, hidle, hup]
  rw [place, hstart, place]
  generalize Place.start directory = p
  have hname : isAbsolute [name] = false := by simp [isAbsolute]
  simp only [join, hname, Bool.false_eq_true, ↓reduceIte]
  split
  · rename_i hlast
    obtain ⟨front, rfl⟩ := List.getLast?_eq_some_iff.1 hlast
    have hempty (q : Place) : q.enter "" = q := rfl
    simp only [List.dropLast_concat, List.foldl_append, List.foldl_cons, List.foldl_nil, henter, hempty]
  · rw [List.foldl_append, List.foldl_cons, List.foldl_nil, henter]

end Path

namespace Disk

variable {disk disk' : Disk} {place target : Place} {path : Path} {entry : DiskEntry} {bytes : Bytes}

theorem place_of_walk (h : disk.walk place path = .ok target) : target = path.foldl Place.enter place := by
  induction path generalizing place with
  | nil =>
      cases h
      rfl
  | cons segment rest ih =>
      rw [walk] at h
      split at h
      · cases h
      · cases h
      · split at h
        · cases h
        · exact ih h

theorem place_of_locate (h : disk.locate path = .ok target) : target = path.place := by
  rw [locate] at h
  split at h
  · cases h
  · exact place_of_walk h

/-- A way stays open while its directories stay. -/
theorem walk_mono (hkeep : ∀ p, disk.entry? p = some .directory → disk'.entry? p = some .directory)
    (h : disk.walk place path = .ok target) : disk'.walk place path = .ok target := by
  induction path generalizing place with
  | nil => exact h
  | cons segment rest ih =>
      rw [walk] at h
      split at h
      · cases h
      · cases h
      · rename_i hplace
        split at h
        · cases h
        · rename_i hname
          rw [walk, hkeep place hplace]
          simp only [hname, ↓reduceIte]
          exact ih h

theorem locate_mono (hkeep : ∀ p, disk.entry? p = some .directory → disk'.entry? p = some .directory)
    (h : disk.locate path = .ok target) : disk'.locate path = .ok target := by
  rw [locate] at h ⊢
  split at h
  · cases h
  · exact walk_mono hkeep h

/-! ## What stands where -/

theorem lookup_filter_ne {entries : List (Place × DiskEntry)} {p : Place} (h : p ≠ place) :
    (entries.filter fun (q, _) => q ≠ place).lookup p = entries.lookup p := by
  induction entries with
  | nil => rfl
  | cons head rest ih =>
      obtain ⟨q, e⟩ := head
      by_cases hq : q = place
      · subst hq
        rw [List.filter_cons_of_neg (by simp), ih, List.lookup_cons, beq_false_of_ne h]
      · rw [List.filter_cons_of_pos (by simpa using hq), List.lookup_cons, List.lookup_cons, ih]

theorem entry?_put_self (h : place.isGiven = false) : Disk.entry? (disk.put place entry) place = some entry := by
  unfold entry?
  rw [if_neg (by simp [h])]
  simp [put]

theorem entry?_put_of_ne {p : Place} (h : p ≠ place) : Disk.entry? (disk.put place entry) p = disk.entry? p := by
  simp only [put, entry?, List.lookup_cons, beq_false_of_ne h, lookup_filter_ne h]

theorem entry?_of_isGiven (h : place.isGiven = true) : disk.entry? place = some .directory := by
  unfold entry?
  rw [if_pos h]

theorem isGiven_of_not_directory (h : disk.entry? place ≠ some .directory) : place.isGiven = false := by
  cases hgiven : place.isGiven with
  | false => rfl
  | true => exact absurd (entry?_of_isGiven hgiven) h

/-- One disk has all that another has, and no other files. -/
structure Extends (disk disk' : Disk) : Prop where
  keeps : ∀ {place entry}, disk.entry? place = some entry → disk'.entry? place = some entry
  files : ∀ {place bytes}, disk'.entry? place = some (.file bytes) → disk.entry? place = some (.file bytes)

theorem Extends.refl (disk : Disk) : Extends disk disk := ⟨id, id⟩

theorem Extends.trans {disk'' : Disk} (h : Extends disk disk') (h' : Extends disk' disk'') : Extends disk disk'' :=
  ⟨fun hentry => h'.keeps (h.keeps hentry), fun hentry => h.files (h'.files hentry)⟩

theorem extends_put_directory (h : disk.entry? place = none) : Extends disk (disk.put place .directory) := by
  have hnot : disk.entry? place ≠ some .directory := by simp [h]
  have hgiven := isGiven_of_not_directory hnot
  constructor
  · intro p entry hentry
    have hne : p ≠ place := by
      rintro rfl
      rw [h] at hentry
      cases hentry
    rw [entry?_put_of_ne hne, hentry]
  · intro p bytes hentry
    by_cases hp : p = place
    · subst hp
      rw [entry?_put_self hgiven] at hentry
      cases hentry
    · rwa [entry?_put_of_ne hp] at hentry

theorem extends_makeMissing (disk : Disk) (path : Path) : Extends disk (disk.makeMissing path) := by
  rw [makeMissing]
  split
  · exact .refl disk
  · split
    · exact .refl disk
    · rename_i hnone
      exact extends_put_directory (by simpa using hnone)

theorem extends_makeDirectories (disk : Disk) (path : Path) : Extends disk (disk.makeDirectories path) := by
  rw [makeDirectories]
  split
  · exact .refl disk
  · generalize path.stages = stages
    induction stages generalizing disk with
    | nil => exact .refl disk
    | cons stage rest ih => exact (extends_makeMissing disk stage).trans (ih _)

/-! ## Reading and writing -/

theorem read_eq_ok_iff : disk.read path = .ok bytes ↔
    disk.locate path = .ok path.place ∧ disk.entry? path.place = some (.file bytes) := by
  rw [read, Except.bind_eq_ok_iff]
  constructor
  · rintro ⟨place, hlocate, hentry⟩
    have hplace := place_of_locate hlocate
    subst hplace
    refine ⟨hlocate, ?_⟩
    split at hentry
    · cases hentry
    · cases hentry
    · rename_i hfile
      cases hentry
      exact hfile
  · rintro ⟨hlocate, hentry⟩
    exact ⟨_, hlocate, by rw [hentry]⟩

theorem of_write (h : disk.write path bytes = .ok disk') :
    disk.locate path = .ok path.place ∧ disk.entry? path.place ≠ some .directory ∧
      disk' = disk.put path.place (.file bytes) := by
  rw [write, Except.bind_eq_ok_iff] at h
  obtain ⟨place, hlocate, hwrite⟩ := h
  have hplace := place_of_locate hlocate
  subst hplace
  split at hwrite
  · cases hwrite
  · rename_i hentry
    cases hwrite
    exact ⟨hlocate, hentry, rfl⟩

section

variable (h : disk.write path bytes = .ok disk')
include h

theorem entry?_write_self : disk'.entry? path.place = some (.file bytes) := by
  obtain ⟨-, hentry, rfl⟩ := of_write h
  exact entry?_put_self (isGiven_of_not_directory hentry)

theorem entry?_write_of_ne (hne : place ≠ path.place) : disk'.entry? place = disk.entry? place := by
  obtain ⟨-, -, rfl⟩ := of_write h
  exact entry?_put_of_ne hne

theorem locate_write {other : Path} (hlocate : disk.locate other = .ok target) : disk'.locate other = .ok target := by
  obtain ⟨-, hentry, -⟩ := of_write h
  refine locate_mono (fun p hp => ?_) hlocate
  have hne : p ≠ path.place := by
    rintro rfl
    exact hentry hp
  rw [entry?_write_of_ne h hne, hp]

/-- A file that was written is read back. -/
theorem read_write_self : disk'.read path = .ok bytes :=
  read_eq_ok_iff.2 ⟨locate_write h (of_write h).1, entry?_write_self h⟩

/-- The files at other places are read as before. -/
theorem read_write_of_ne {other : Path} {bytes' : Bytes} (hne : other.place ≠ path.place)
    (hread : disk.read other = .ok bytes') : disk'.read other = .ok bytes' := by
  obtain ⟨hlocate, hentry⟩ := read_eq_ok_iff.1 hread
  exact read_eq_ok_iff.2 ⟨locate_write h hlocate, by rw [entry?_write_of_ne h hne, hentry]⟩

end

theorem Extends.read {other : Path} (h : Extends disk disk') (hread : disk.read other = .ok bytes) :
    disk'.read other = .ok bytes := by
  obtain ⟨hlocate, hentry⟩ := read_eq_ok_iff.1 hread
  exact read_eq_ok_iff.2 ⟨locate_mono (fun _ => h.keeps) hlocate, h.keeps hentry⟩

end Disk

end CompiledRules
