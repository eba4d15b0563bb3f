import Mathlib
import PerlCalls.Files.Disk

/-! What a write changes on a disk.

A walk goes through known directories only (`IsKnown`), so the file that it ends at can be written
without any directory coming into being: a write changes the entry at one location and no other
(`write_differsAt`). Every path leads where it led before, and those that lead to the location find
the new bytes there (`DiffersAt.locate`). -/
namespace PerlCalls.Files

/-- Where a file stands or could be put. -/
def Standing.location? : Standing → Option Location
  | .file location _ => some location
  | .absent location => some location
  | .directory | .barred .. => none

/-- What stands there once a file with these bytes has been put at the location. -/
def Standing.rewritten (location : Location) (bytes : List UInt8) (standing : Standing) : Standing :=
  if standing.location? = some location then .file location bytes else standing

namespace Disk

variable {disk : Disk}

/-! ### Walks -/

/-- There is something at the place and at every place above it. -/
def IsKnown (disk : Disk) (place : Location) : Prop :=
  ∀ above, above <+: place → ∃ entry, disk.find? above = some entry

theorem isKnown_home (disk : Disk) : disk.IsKnown disk.home := by
  intro above habove
  rw [find?]
  split
  · exact ⟨_, rfl⟩
  · rw [List.isPrefixOf_iff_prefix.mpr habove]
    exact ⟨_, rfl⟩

theorem IsKnown.higher {place above : Location} (h : disk.IsKnown place) (habove : above <+: place) :
    disk.IsKnown above :=
  fun _ hp => h _ (hp.trans habove)

theorem IsKnown.step {place : Location} {name : String} {entry : Entry} (h : disk.IsKnown place)
    (hentry : disk.find? (place ++ [name]) = some entry) : disk.IsKnown (place ++ [name]) := by
  intro above habove
  rcases List.prefix_concat_iff.mp habove with rfl | habove
  · exact ⟨entry, hentry⟩
  · exact h above habove

/-- At the location there is a file or nothing. -/
def IsFree (disk : Disk) (location : Location) : Prop :=
  ∀ entry, disk.find? location = some entry → ∃ held, entry = .file held

/-- One name of a walk that comes to an end leads on, up or down to a directory, or is the last name. If a
file may be there then, it is under that name. -/
theorem walk_cons_ok {place : Location} {name : String} {rest : List String} {standing : Standing}
    (h : disk.walk place (name :: rest) = .ok standing) :
    (∃ place', (place' <+: place ∨ place' = place ++ [name] ∧ disk.find? place' = some .directory) ∧
        disk.walk place' rest = .ok standing) ∨
      (rest = [] ∧ ∀ location, standing.location? = some location →
        location = place ++ [name] ∧ disk.IsFree location) := by
  rw [walk] at h
  by_cases hdot : (name == ".") = true
  · rw [if_pos hdot] at h
    exact Or.inl ⟨place, Or.inl (List.prefix_refl place), h⟩
  rw [if_neg hdot] at h
  by_cases hup : (name == "..") = true
  · rw [if_pos hup] at h
    exact Or.inl ⟨place.dropLast, Or.inl (List.dropLast_prefix place), h⟩
  rw [if_neg hup] at h
  by_cases hlong : maxComponent < name.utf8ByteSize
  · rw [if_pos hlong] at h
    cases h
  rw [if_neg hlong] at h
  dsimp only at h
  split at h
  · rename_i hfind
    exact Or.inl ⟨place ++ [name], Or.inr ⟨rfl, hfind⟩, h⟩
  -- A file, something that is barred, and nothing.
  · rename_i bytes hfind
    split at h
    · rename_i hempty
      cases h
      refine Or.inr ⟨List.isEmpty_iff.mp hempty, ?_⟩
      rintro location ⟨⟩
      exact ⟨rfl, by simp [IsFree, hfind]⟩
    · cases h
  · split at h
    · rename_i hempty
      cases h
      exact Or.inr ⟨List.isEmpty_iff.mp hempty, nofun⟩
    · cases h
  · rename_i hfind
    split at h
    · rename_i hempty
      cases h
      refine Or.inr ⟨List.isEmpty_iff.mp hempty, ?_⟩
      rintro location ⟨⟩
      exact ⟨rfl, by simp [IsFree, hfind]⟩
    · cases h

/-- Where a walk finds a file or could put one: under the last name of the path, in a place that is
known, and where nothing else is. -/
theorem walk_location {place : Location} {names : List String} {standing : Standing}
    {location : Location} (hplace : disk.IsKnown place) (h : disk.walk place names = .ok standing)
    (hlocation : standing.location? = some location) :
    ∃ directory name, location = directory ++ [name] ∧ disk.IsKnown directory ∧
      names.getLast? = some name ∧ disk.IsFree location := by
  induction names generalizing place with
  | nil =>
    cases h
    cases hlocation
  | cons name rest ih =>
    rcases walk_cons_ok h with ⟨place', hplace', hrest⟩ | ⟨hrest, hend⟩
    · have hknown : disk.IsKnown place' := by
        rcases hplace' with habove | ⟨rfl, hfind⟩
        · exact hplace.higher habove
        · exact hplace.step hfind
      obtain ⟨directory, last, hdirectory, hin, hlast, hfree⟩ := ih hknown hrest
      exact ⟨directory, last, hdirectory, hin, by rw [List.getLast?_cons, hlast]; rfl, hfree⟩
    · obtain ⟨rfl, hfree⟩ := hend location hlocation
      subst hrest
      exact ⟨place, name, rfl, hplace, rfl, hfree⟩

/-! ### Writes -/

/-- The disks differ in the entry at one location: there is a file with these bytes now, and there was a
file or nothing. -/
structure DiffersAt (disk disk' : Disk) (location : Location) (bytes : List UInt8) : Prop where
  home : disk'.home = disk.home
  find : ∀ place, disk'.find? place = if place = location then some (.file bytes) else disk.find? place
  free : disk.IsFree location

theorem lookup_put (disk : Disk) (location place : Location) (bytes : List UInt8) :
    (disk.put location bytes).entries.lookup place =
      if place = location then some (.file bytes) else disk.entries.lookup place := by
  rw [put, List.lookup_cons]
  by_cases heq : place = location
  · simp [heq]
  · rw [if_neg heq, beq_eq_false_iff_ne.mpr heq]
    dsimp only
    induction disk.entries with
    | nil => rfl
    | cons e rest ih =>
      by_cases he : e.1 = location
      · have hne : (place == e.1) = false := beq_eq_false_iff_ne.mpr (he ▸ heq)
        rw [List.filter_cons_of_neg (by simp [he]), List.lookup_cons, hne, ih]
      · rw [List.filter_cons_of_pos (by simp [he]), List.lookup_cons, List.lookup_cons, ih]

theorem any_put (disk : Disk) (location place : Location) (bytes : List UInt8) :
    (disk.put location bytes).entries.any (fun e => place.isPrefixOf e.1) =
      (place.isPrefixOf location || disk.entries.any (fun e => place.isPrefixOf e.1)) := by
  rw [put, List.any_cons]
  cases hlocation : place.isPrefixOf location with
  | true => rfl
  | false =>
    rw [Bool.false_or, Bool.false_or, List.any_filter]
    refine congrArg (List.any disk.entries) (funext fun e => ?_)
    by_cases he : e.1 = location
    · simp [he, hlocation]
    · simp [he]

/-- In a known place a file can be put without anything else coming into being. -/
theorem differsAt_put {directory : Location} (name : String) (bytes : List UInt8)
    (hknown : disk.IsKnown directory) (hfree : disk.IsFree (directory ++ [name])) :
    disk.DiffersAt (disk.put (directory ++ [name]) bytes) (directory ++ [name]) bytes where
  home := rfl
  free := hfree
  find place := by
    rw [find?, lookup_put]
    by_cases heq : place = directory ++ [name]
    · rw [if_pos heq, if_pos heq]
    · rw [if_neg heq, if_neg heq, any_put, find?]
      cases hlookup : disk.entries.lookup place with
      | some entry => rfl
      | none =>
        dsimp only
        cases habove : place.isPrefixOf (directory ++ [name]) with
        | false => rfl
        | true =>
          -- A place above the file is known already, and as a directory.
          have hprefix : place <+: directory :=
            (List.prefix_concat_iff.mp (List.isPrefixOf_iff_prefix.mp habove)).resolve_left heq
          obtain ⟨entry, hentry⟩ := hknown place hprefix
          rw [find?, hlookup] at hentry
          dsimp only at hentry
          split_ifs at hentry with hdirectory
          have hhome : (disk.put (directory ++ [name]) bytes).home = disk.home := rfl
          rw [hhome, hdirectory, Bool.true_or, Bool.or_true]

variable {disk' : Disk} {location : Location} {bytes : List UInt8}

/-- The same walk on the two disks. It ends at the same place; only where there was nothing to go on from,
there is a file now. -/
theorem DiffersAt.walk (h : disk.DiffersAt disk' location bytes) (place : Location)
    (names : List String) :
    disk'.walk place names = (disk.walk place names).map (Standing.rewritten location bytes) ∨
      (disk.walk place names = .error .missing ∧ disk'.walk place names = .error .notDirectory) := by
  induction names generalizing place with
  | nil => exact Or.inl rfl
  | cons name rest ih =>
    rw [Disk.walk, Disk.walk]
    by_cases hdot : (name == ".") = true
    · rw [if_pos hdot, if_pos hdot]
      exact ih place
    rw [if_neg hdot, if_neg hdot]
    by_cases hup : (name == "..") = true
    · rw [if_pos hup, if_pos hup]
      exact ih place.dropLast
    rw [if_neg hup, if_neg hup]
    by_cases hlong : maxComponent < name.utf8ByteSize
    · rw [if_pos hlong, if_pos hlong]
      exact Or.inl rfl
    rw [if_neg hlong, if_neg hlong]
    dsimp only
    rw [h.find]
    by_cases heq : place ++ [name] = location
    · rw [if_pos heq]
      cases hfind : disk.find? (place ++ [name]) with
      | none => cases rest <;> simp [Except.map, Standing.rewritten, Standing.location?, heq]
      | some entry =>
        obtain ⟨old, rfl⟩ := h.free entry (heq ▸ hfind)
        cases rest <;> simp [Except.map, Standing.rewritten, Standing.location?, heq]
    · rw [if_neg heq]
      cases hfind : disk.find? (place ++ [name]) with
      | none => cases rest <;> simp [Except.map, Standing.rewritten, Standing.location?, heq]
      | some entry =>
        cases entry with
        | directory => exact ih (place ++ [name])
        | file old => cases rest <;> simp [Except.map, Standing.rewritten, Standing.location?, heq]
        | barred number reason =>
          cases rest <;> simp [Except.map, Standing.rewritten, Standing.location?]

theorem DiffersAt.locate (h : disk.DiffersAt disk' location bytes) (path : String) :
    disk'.locate path = (disk.locate path).map (Standing.rewritten location bytes) ∨
      (disk.locate path = .error .missing ∧ disk'.locate path = .error .notDirectory) := by
  rw [Disk.locate, Disk.locate, h.home]
  by_cases hempty : path.isEmpty = true
  · rw [if_pos hempty, if_pos hempty]
    exact Or.inl rfl
  rw [if_neg hempty, if_neg hempty]
  by_cases hnull : path.toList.contains (Char.ofNat 0) = true
  · rw [if_pos hnull, if_pos hnull]
    exact Or.inl rfl
  rw [if_neg hnull, if_neg hnull]
  by_cases hlong : maxPath < path.utf8ByteSize
  · rw [if_pos hlong, if_pos hlong]
    exact Or.inl rfl
  rw [if_neg hlong, if_neg hlong]
  exact h.walk _ _

theorem DiffersAt.locate_ok (h : disk.DiffersAt disk' location bytes) {path : String}
    {standing : Standing} (hpath : disk.locate path = .ok standing) :
    disk'.locate path = .ok (standing.rewritten location bytes) := by
  rcases h.locate path with hsame | ⟨hbefore, -⟩
  · rw [hsame, hpath]
    rfl
  · cases hbefore.symm.trans hpath

theorem DiffersAt.locate_of_ok (h : disk.DiffersAt disk' location bytes) {path : String}
    {standing' : Standing} (hpath : disk'.locate path = .ok standing') :
    ∃ standing, disk.locate path = .ok standing ∧ standing' = standing.rewritten location bytes := by
  rcases h.locate path with hsame | ⟨-, hafter⟩
  · rw [hsame] at hpath
    cases hbefore : disk.locate path with
    | error fault =>
      rw [hbefore] at hpath
      cases hpath
    | ok standing =>
      rw [hbefore] at hpath
      exact ⟨standing, rfl, (Except.ok.inj hpath).symm⟩
  · cases hafter.symm.trans hpath

/-- Asking for a directory gives the same answer. -/
theorem DiffersAt.isDirectory (h : disk.DiffersAt disk' location bytes) (path : String) :
    disk'.isDirectory path = disk.isDirectory path := by
  rw [Disk.isDirectory, Disk.isDirectory]
  rcases h.locate path with hsame | ⟨hbefore, hafter⟩
  · rw [hsame]
    cases disk.locate path with
    | error fault => rfl
    | ok standing =>
      cases standing with
      | directory => rfl
      | barred number reason => rfl
      | file old _ =>
        by_cases heq : old = location <;> simp [Except.map, Standing.rewritten, Standing.location?, heq]
      | absent old =>
        by_cases heq : old = location <;> simp [Except.map, Standing.rewritten, Standing.location?, heq]
  · rw [hbefore, hafter]
    rfl

theorem locate_location {path : String} {standing : Standing} (h : disk.locate path = .ok standing)
    (hlocation : standing.location? = some location) :
    ∃ directory name, location = directory ++ [name] ∧ disk.IsKnown directory ∧
      (steps path.toList).getLast? = some name ∧ disk.IsFree location := by
  rw [Disk.locate] at h
  split at h
  · cases h
  split at h
  · cases h
  split at h
  · cases h
  dsimp only at h
  refine walk_location ?_ h hlocation
  split
  · exact (isKnown_home disk).higher (List.nil_prefix)
  · exact isKnown_home disk

/-- A write changes what stands at the path, and nothing else. -/
theorem write_differsAt {path : String} (h : disk.write path bytes = .ok disk') :
    ∃ standing location, disk.locate path = .ok standing ∧ standing.location? = some location ∧
      disk.DiffersAt disk' location bytes := by
  have hput : ∀ {standing : Standing} {location : Location}, disk.locate path = .ok standing →
      standing.location? = some location → disk.put location bytes = disk' →
      ∃ standing location, disk.locate path = .ok standing ∧ standing.location? = some location ∧
        disk.DiffersAt disk' location bytes := by
    rintro standing location hlocate hlocation rfl
    obtain ⟨directory, name, rfl, hknown, -, hfree⟩ := locate_location hlocate hlocation
    exact ⟨standing, _, hlocate, hlocation, differsAt_put name bytes hknown hfree⟩
  rw [Disk.write] at h
  split at h
  · rename_i hlocate
    exact hput hlocate rfl (Except.ok.inj h)
  · rename_i hlocate
    exact hput hlocate rfl (Except.ok.inj h)
  · cases h
  · cases h
  · cases h

theorem read_eq_ok_iff {path : String} :
    disk.read path = .ok bytes ↔ ∃ location, disk.locate path = .ok (.file location bytes) := by
  rw [Disk.read]
  cases disk.locate path with
  | error fault => simp
  | ok standing => cases standing <;> simp

/-- A path that does not lead to the location is read as before. -/
theorem DiffersAt.read (h : disk.DiffersAt disk' location bytes) {path : String}
    (hpath : ∀ standing, disk.locate path = .ok standing → standing.location? ≠ some location)
    (held : List UInt8) : disk'.read path = .ok held ↔ disk.read path = .ok held := by
  rw [read_eq_ok_iff, read_eq_ok_iff]
  refine exists_congr fun place => ⟨fun hafter => ?_, fun hbefore => ?_⟩
  · obtain ⟨standing, hbefore, hstanding⟩ := h.locate_of_ok hafter
    rw [Standing.rewritten, if_neg (hpath standing hbefore)] at hstanding
    rw [hbefore, hstanding]
  · rw [h.locate_ok hbefore, Standing.rewritten, if_neg (hpath _ hbefore)]

end Disk

end PerlCalls.Files
