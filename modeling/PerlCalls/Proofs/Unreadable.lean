import Mathlib
import PerlCalls.Proofs.Endings
import PerlCalls.Proofs.FileOrder

/-! Files that cannot be read.

The first file of a list that cannot be read stops a scan, and the scan is left as it was after the files
before it (`scanFiles_unreadable`). A run over the list then has no result, and a session that is to draw
it ends in a failure, with nothing printed to the standard output and nothing written
(`graph_unreadable`). The error says that the file cannot be read, unless the path could not even be
asked for; a listing of definitions then reports nothing at all (`unreadable_stops`). -/
namespace PerlCalls

/-! ### What is wrong with a path -/

namespace Files.Disk

/-- A path is refused for a NUL before anything is looked up. -/
theorem walk_ne_nullByte (disk : Disk) (place : Location) (names : List String) :
    disk.walk place names ≠ .error .nullByte := by
  fun_induction walk disk place names <;> simp_all

theorem read_nullByte_iff (disk : Disk) (path : String) :
    disk.read path = .error .nullByte ↔ Char.ofNat 0 ∈ path.toList := by
  have hlocate : disk.read path = .error .nullByte ↔ disk.locate path = .error .nullByte := by
    rw [read]
    split <;> simp_all
  rw [hlocate, locate]
  by_cases hempty : path.isEmpty
  · simp [String.isEmpty_iff.mp hempty]
  · by_cases hnull : Char.ofNat 0 ∈ path.toList
    · simp [hempty, hnull]
    · by_cases hlong : maxPath < path.utf8ByteSize <;> simp [hempty, hnull, hlong, walk_ne_nullByte]

end Files.Disk

namespace Scan

open Files

/-- The error names the path and the reason, unless the path could not be asked for. -/
theorem InputError.message_eq_iff (e : InputError) :
    e.message = s!"Cannot read {e.path}: " ++ e.fault.reason ↔ e.fault ≠ .nullByte := by
  rw [InputError.message]
  by_cases hnull : e.fault = .nullByte
  · have hfirst : ("embedded null byte" : String).toList.head? ≠
        (s!"Cannot read {e.path}: " ++ "embedded null byte").toList.head? := by
      simp [toString]
    simp only [hnull, beq_self_eq_true, if_true, ne_eq, not_true_eq_false, iff_false]
    exact fun heq => hfirst (congrArg (fun text : String => text.toList.head?) heq)
  · simp [hnull]

/-! ### The first file that cannot be read -/

/-- All files of `before` can be read, and the one behind them cannot. -/
structure FirstUnreadable (disk : Disk) (paths before : List String) (e : InputError) : Prop where
  follows : before ++ [e.path] <+: paths
  readable : ∀ path ∈ before, ∃ bytes, disk.read path = .ok bytes
  unreadable : disk.read e.path = .error e.fault

theorem exists_firstUnreadable {disk : Disk} {paths : List String}
    (h : ∃ path ∈ paths, ∀ bytes, disk.read path ≠ .ok bytes) :
    ∃ before e, FirstUnreadable disk paths before e := by
  induction paths with
  | nil => simp at h
  | cons path paths ih =>
    cases hread : disk.read path with
    | error fault => exact ⟨[], ⟨path, fault⟩, ⟨⟨paths, rfl⟩, by simp, hread⟩⟩
    | ok bytes =>
      have hrest : ∃ path ∈ paths, ∀ bytes, disk.read path ≠ .ok bytes := by simpa [hread] using h
      obtain ⟨before, e, hfirst⟩ := ih hrest
      refine ⟨path :: before, e, List.prefix_cons_inj path |>.mpr hfirst.follows, ?_, hfirst.unreadable⟩
      exact List.forall_mem_cons.mpr ⟨⟨bytes, hread⟩, hfirst.readable⟩

namespace Progress

/-- A scan that has stopped looks at no further file. -/
theorem scanFiles_stopped {p : Progress} {e : InputError} (h : p.stopped = some e) (s : Settings)
    (disk : Disk) (paths : List String) : p.scanFiles s disk paths = p := by
  induction paths with
  | nil => rfl
  | cons path paths ih =>
    have hstep : p.scanFile s disk path = p := by rw [scanFile, h]
    rw [scanFiles, List.foldl_cons, hstep, ← scanFiles, ih]

/-- A scan is left as after the files before the one that stops it. -/
theorem scanFiles_unreadable {p : Progress} (hp : p.stopped = none) {disk : Disk}
    {paths before : List String} {e : InputError} (h : FirstUnreadable disk paths before e)
    (s : Settings) :
    p.scanFiles s disk paths = { p.scanFiles s disk before with stopped := some e } := by
  obtain ⟨after, rfl⟩ := h.follows
  have hbefore := (scanFiles_readable hp s disk before h.readable).1
  have hstep : (p.scanFiles s disk before).scanFile s disk e.path =
      { p.scanFiles s disk before with stopped := some e } := by
    rw [scanFile, hbefore, h.unreadable]
  have hsplit : p.scanFiles s disk (before ++ [e.path] ++ after) =
      ((p.scanFiles s disk before).scanFile s disk e.path).scanFiles s disk after := by
    rw [scanFiles, List.foldl_append, List.foldl_concat]
    rfl
  rw [hsplit, hstep]
  exact scanFiles_stopped rfl s disk after

end Progress

end Scan

/-! ### Runs and sessions -/

theorem Run.run_unreadable {disk : Files.Disk} {paths before : List String} {e : Scan.InputError}
    (h : Scan.FirstUnreadable disk paths before e) (s : Settings) :
    run disk s paths = ((({} : Scan.Progress).scanFiles s.scan disk before).log, .error e) := by
  rw [run, Scan.Progress.scanFiles_unreadable rfl h]

namespace Command

open Files Run Scan

/-- A session stops before it prints or writes anything, for its settings or for the file. -/
theorem drawGraph_unreadable {world : World} {r : GraphRequest} {before : List String} {e : InputError}
    (h : FirstUnreadable world.disk r.files before e) :
    ∃ logs failure, drawGraph world r = ({ disk := world.disk, logs := logs }, some failure) ∧
      ∀ s, loadSettings world.libraries world.disk r.settingsFile r.overrides = .ok s →
        failure = .input e := by
  rw [drawGraph]
  cases loadSettings world.libraries world.disk r.settingsFile r.overrides with
  | error error => exact ⟨[], .load error, rfl, by simp⟩
  | ok s =>
    dsimp only
    rw [run_unreadable h]
    exact ⟨_, .input e, rfl, fun _ _ => rfl⟩

theorem graph_unreadable {world : World} {r : GraphRequest} {before : List String} {e : InputError}
    (h : FirstUnreadable world.disk r.files before e) :
    (graph world r).exitCode = 1 ∧ (graph world r).transcript.stdout = [] ∧
      (graph world r).transcript.disk = world.disk ∧
      ∀ s, loadSettings world.libraries world.disk r.settingsFile r.overrides = .ok s →
        (graph world r).reported = some (.input e) := by
  obtain ⟨logs, failure, hdraw, hfailure⟩ := drawGraph_unreadable h
  rw [graph, hdraw]
  dsimp only
  obtain ⟨hcode, hstdout, hdisk, hreported⟩ :=
    close_some ⟨[], [], shownLogs r.verbose logs, world.disk⟩ world.reports isExpected failure
  refine ⟨hcode, hstdout, hdisk, fun s hs => ?_⟩
  rw [hfailure s hs] at hreported ⊢
  exact hreported.mpr (isExpected_of_own not_false)

theorem definitions_unreadable {world : World} {r : DefinitionsRequest} {before : List String}
    {e : InputError} (h : FirstUnreadable world.disk r.files before e) (extent : BodyExtent) :
    (definitions world r extent).exitCode = 1 ∧
      ((definitions world r extent).reported = some (.input e) ↔ e.fault ≠ .nullByte) := by
  rw [definitions, Progress.scanFiles_unreadable rfl h]
  obtain ⟨hcode, -, -, hreported⟩ :=
    close_some { disk := world.disk } world.reports (· == .own) (.input e)
  refine ⟨hcode, hreported.trans ?_⟩
  rw [Failure.kind]
  by_cases hnull : e.fault = .nullByte <;> simp [hnull]

/-- **A file that cannot be read stops everything that comes behind it.** If all files can be read, a
scan goes through. If not, the first one that cannot be read stops it, and the scan is left as after the
files before. A run over the files gives the error, and a session that is to draw their graph fails,
whatever its options, prints nothing to the standard output and writes nothing; it reports the error if
its settings can be had. That the file cannot be read is what the error says, and a listing of the
definitions reports, exactly if the path holds no NUL. -/
theorem unreadable_stops (disk : Disk) (paths : List String) :
    ((∀ path ∈ paths, ∃ bytes, disk.read path = .ok bytes) →
      ∀ (s : Scan.Settings) (p : Progress), p.stopped = none →
        (p.scanFiles s disk paths).stopped = none) ∧
    ((∃ path ∈ paths, ∀ bytes, disk.read path ≠ .ok bytes) →
      ∃ before e, FirstUnreadable disk paths before e ∧
        (∀ (s : Scan.Settings) (p : Progress), p.stopped = none →
          p.scanFiles s disk paths = { p.scanFiles s disk before with stopped := some e } ∧
          (p.scanFiles s disk before).tally = (before.map (Source.onDisk disk)).foldl
            (fun t source => t.scanLines s source.path source.lines) p.tally) ∧
        (∀ s, (run disk s paths).2 = .error e) ∧
        (∀ (world : World) (args : List String) (r : GraphRequest), world.disk = disk →
          request? args = some (.graph r) → r.files = paths →
          ∃ o, session world args = some o ∧ o.exitCode = 1 ∧ o.transcript.stdout = [] ∧
            o.transcript.disk = disk ∧
            ∀ s, loadSettings world.libraries disk r.settingsFile r.overrides = .ok s →
              o.reported = some (.input e)) ∧
        (e.message = s!"Cannot read {e.path}: " ++ e.fault.reason ↔ Char.ofNat 0 ∉ e.path.toList) ∧
        ∀ (world : World) (r : DefinitionsRequest) (extent : BodyExtent), world.disk = disk →
          r.files = paths →
          (definitions world r extent).exitCode = 1 ∧
          ((definitions world r extent).reported = some (.input e) ↔
            Char.ofNat 0 ∉ e.path.toList)) := by
  refine ⟨fun hread s p hp => (Progress.scanFiles_readable hp s disk paths hread).1, fun hsome => ?_⟩
  obtain ⟨before, e, h⟩ := exists_firstUnreadable hsome
  have hnull : e.fault ≠ .nullByte ↔ Char.ofNat 0 ∉ e.path.toList := by
    rw [← disk.read_nullByte_iff, h.unreadable, Except.error.injEq]
  refine ⟨before, e, h, fun s p hp => ⟨Progress.scanFiles_unreadable hp h s, ?_⟩, fun s => ?_, ?_, ?_, ?_⟩
  · exact (Progress.scanFiles_readable hp s disk before h.readable).2
  · rw [run_unreadable h]
  · rintro world args r rfl hargs rfl
    exact ⟨graph world r, by rw [session, hargs]; rfl, graph_unreadable h⟩
  · rw [e.message_eq_iff, hnull]
  · rintro world r extent rfl rfl
    rw [← hnull]
    exact definitions_unreadable h extent

/-- A NUL among the paths: the scan is left after the first file, but the error does not name the path,
and a listing of the definitions ends without a word. -/
theorem unreadable_unnamed :
    let disk : Disk :=
      { entries := [(["a.pl"], .file "sub x\n".toUTF8.toList), (["b.pl"], .file [])] }
    let paths := ["a.pl", "\x00", "b.pl"]
    let progress := ({} : Progress).scanFiles {} disk paths
    let world := World.usual 80 disk (fun _ => .missing) ⟨2024, 1, 1, 0, 0, 0⟩
    let listing := definitions world { files := paths } .columnZero
    progress.tally.files = ["a.pl"] ∧
      progress.stopped.map InputError.message = some "embedded null byte" ∧
      listing.reported = none ∧ listing.escaped = some (.input ⟨"\x00", .nullByte⟩) ∧
      listing.transcript.stderr = [] := by
  decide +kernel

end Command

end PerlCalls
