import Mathlib
import PerlCalls.Proofs.Checks
import PerlCalls.Proofs.DiskWrites
import PerlCalls.Proofs.Endings
import PerlCalls.Proofs.Fallback
import PerlCalls.Proofs.PathNames

/-! Several formats, and none of them overwritten by another.

Each file that a session writes ends in the format that it is in, whether that is the one asked for or
one that had to stand in for it (`Delivered.ends`). Where no format ends in a dot and another format
(`Backend.TellsApart`), two drawings that go to one place are in one format and the same (`eq_of_ends`). What
has been written therefore stays, from one format to the next (`Kept.deliver`) and to the end of the session
(`graph_keeps_drawings`). All this is about disks without links, where paths to different places are never
paths to one file. -/
namespace PerlCalls

namespace Export

open Files

/-! ### Formats -/

/-- The formats that can be had at all: the texts, and what the backend knows. -/
def Backend.known (backend : Backend) : List String := ["dot", "gv", "json"] ++ backend.formats

/-- Files are told apart by the formats at their ends: each makes an extension, and none ends in a dot and
another one. -/
structure Backend.TellsApart (backend : Backend) : Prop where
  extension : ∀ f ∈ backend.known, f.toList ≠ [] ∧ '/' ∉ f.toList
  apart : ∀ f ∈ backend.known, ∀ g ∈ backend.known, ¬ ('.' :: f.toList <:+ g.toList)

namespace Backend.TellsApart

variable {backend : Backend} {f g : String}

theorem isExtension (h : backend.TellsApart) (hf : f ∈ backend.known) : IsExtension f.toList :=
  ⟨(h.extension f hf).1, (h.extension f hf).2⟩

/-- A name ends in one format at most. -/
theorem eq_of_ends (h : backend.TellsApart) (hf : f ∈ backend.known) (hg : g ∈ backend.known)
    {name : List Char} (hname : '.' :: f.toList <:+ name) (hname' : '.' :: g.toList <:+ name) : f = g := by
  rcases List.suffix_or_suffix_of_suffix hname hname' with hends | hends
  · rcases List.suffix_cons_iff.mp hends with heq | hends
    · exact String.toList_inj.mp (List.cons.inj heq).2
    · exact absurd hends (h.apart f hf g hg)
  · rcases List.suffix_cons_iff.mp hends with heq | hends
    · exact (String.toList_inj.mp (List.cons.inj heq).2).symm
    · exact absurd hends (h.apart g hg f hf)

end Backend.TellsApart

namespace Drawing

variable {d : Drawing} {backend : Backend} {options : Options}

/-- Only known formats can be had. -/
theorem known_of_render {format : String} {bytes : List UInt8}
    (h : d.render backend options format = .ok bytes) : format ∈ backend.known := by
  by_contra hunknown
  obtain ⟨htext, hformat⟩ := not_or.mp (mt List.mem_append.mpr hunknown)
  rw [render_image _ _ _ htext, if_neg hformat] at h
  cases h

theorem firstRendering_ok {chain : List String} {rendering : Rendering}
    (h : (d.firstRendering backend options chain).2 = .ok rendering) :
    d.render backend options rendering.format = .ok rendering.bytes := by
  induction chain with
  | nil => cases h
  | cons format rest ih =>
    by_cases hformat : ∃ e, d.render backend options format = .error (.unavailable e)
    · obtain ⟨e, hformat⟩ := hformat
      rw [firstRendering_unavailable hformat] at h
      exact ih h
    · rw [firstRendering_available (not_exists.mp hformat)] at h
      obtain ⟨bytes, hbytes, rfl⟩ := map_eq_ok.mp h
      exact hbytes

/-- The format asked for comes first. -/
theorem renderWithFallback_own {bytes : List UInt8}
    (h : d.render backend options options.format = .ok bytes) :
    (d.renderWithFallback backend options).2 = .ok ⟨options.format, bytes⟩ := by
  rw [renderWithFallback, fallbackChain, firstRendering_available (by simp [h]), h]
  rfl

/-- What writing a drawing comes to: it goes to the destination in the format asked for, and with
another suffix in any other. -/
theorem write_ok {disk : Disk} {destination : String} {w : Written}
    (h : (d.write backend options disk destination).2 = .ok w) :
    ∃ rendering path, (d.renderWithFallback backend options).2 = .ok rendering ∧
      w.format = rendering.format ∧ w.path = path.toString ∧
      disk.write w.path rendering.bytes = .ok w.disk ∧
      if rendering.format = options.format then path = Path.ofString destination
      else (Path.ofString destination).withExtension rendering.format = .ok path := by
  rw [write] at h
  dsimp only at h
  split at h
  · cases h
  · rename_i rendering hrendering
    have hplaced : ∀ {path : Path}, (if (rendering.format == options.format) = true
        then .ok (Path.ofString destination)
        else (Path.ofString destination).withExtension rendering.format) = Except.ok path →
        if rendering.format = options.format then path = Path.ofString destination
        else (Path.ofString destination).withExtension rendering.format = .ok path := by
      intro path hpath
      by_cases hsame : rendering.format = options.format
      · rw [if_pos (beq_iff_eq.mpr hsame)] at hpath
        rw [if_pos hsame]
        exact (Except.ok.inj hpath).symm
      · rw [if_neg (mt beq_iff_eq.mp hsame)] at hpath
        rw [if_neg hsame]
        exact hpath
    split at h
    · cases h
    · rename_i path hpath
      split at h
      · cases h
      · rename_i disk' hdisk
        cases h
        exact ⟨rendering, path, hrendering, rfl, rfl, hdisk, hplaced hpath⟩

end Drawing

end Export

namespace Command

open PerlCalls.Graph
open Files Export Report Run Scan Text

/-! ### One format -/

/-- The drawing in one format, if it can be had. -/
def rendered (s : Run.Settings) (world : World) (d : Drawing) (format : String) :
    Except RenderError (List UInt8) :=
  d.render world.backend { clustered := s.cluster } format

/-- What was asked for has no part in how a drawing is rendered. -/
theorem render_eq_rendered (s : Run.Settings) (world : World) (d : Drawing) (asked format : String) :
    d.render world.backend { format := asked, clustered := s.cluster } format =
      rendered s world d format := by
  have hdot : d.dot { format := asked, clustered := s.cluster } = d.dot { clustered := s.cluster } := rfl
  have hjson : d.json { format := asked, clustered := s.cluster } = d.json { clustered := s.cluster } := by
    have hvalue : graphJson d.graph d.traversal { format := asked, clustered := s.cluster } =
        graphJson d.graph d.traversal { clustered := s.cluster } := rfl
    rw [Drawing.json_eq, Drawing.json_eq, jsonText, jsonText, hvalue]
  rw [rendered, Drawing.render, Drawing.render, hdot, hjson]

/-- The destination is a directory, or is to be one. -/
def IsFolder (disk : Disk) (destination : String) : Prop :=
  disk.isDirectory (Path.ofString destination).toString = .ok true ∨ endsLikeDirectory destination = true

/-- Where a format belongs that can be had: in a directory under a name of its own, beside any other
destination with the format for its suffix. -/
inductive IsTarget (s : Run.Settings) (world : World) (disk : Disk) (destination format : String) :
    Path → Prop where
  | inside (h : IsFolder disk destination) : IsTarget s world disk destination format
      ((Path.ofString destination).append (derivedName s.start world.now ++ ".callgraph." ++ format))
  | beside {p : Path} (h : ¬ IsFolder disk destination)
      (hp : (Path.ofString destination).withExtension format = .ok p) :
      IsTarget s world disk destination format p

/-- The file holds a format where it belongs, unless that format cannot be had. -/
def Answers (s : Run.Settings) (world : World) (d : Drawing) (destination : String) (disk : Disk)
    (format : String) (w : Written) : Prop :=
  ∀ bytes, rendered s world d format = .ok bytes →
    w.format = format ∧ ∃ p, IsTarget s world disk destination format p ∧ w.path = p.toString

/-- What has been written for a format. -/
structure Delivered (s : Run.Settings) (world : World) (d : Drawing) (destination : String) (disk : Disk)
    (format : String) (w : Written) : Prop where
  ends : '.' :: w.format.toList <:+ w.path.toList
  written : ∃ bytes, rendered s world d w.format = .ok bytes ∧ disk.write w.path bytes = .ok w.disk
  own : Answers s world d destination disk format w

section Format
variable {s : Run.Settings} {world : World} {d : Drawing} {disk : Disk} {destination format : String}

/-- Where a format belongs depends on the disk only for which paths are directories. -/
theorem IsTarget.of_isDirectory {disk' : Disk} {p : Path} (h : IsTarget s world disk destination format p)
    (hsame : ∀ path, disk.isDirectory path = disk'.isDirectory path) :
    IsTarget s world disk' destination format p := by
  have hfolder : IsFolder disk destination ↔ IsFolder disk' destination := by
    rw [IsFolder, IsFolder, hsame]
  cases h with
  | inside h => exact .inside (hfolder.mp h)
  | beside h hp => exact .beside (mt hfolder.mpr h) hp

theorem outputPath_ok {start : Option String} {now : Moment} {path : String}
    (h : outputPath disk destination format start now = .ok path) :
    (IsFolder disk destination ∧ path = ((Path.ofString destination).append
        (derivedName start now ++ ".callgraph." ++ format)).toString) ∨
      (¬ IsFolder disk destination ∧ path = destination) := by
  obtain ⟨isDirectory, hdirectory, h⟩ := bind_eq_ok.mp h
  have hfolder : IsFolder disk destination ↔ (isDirectory || endsLikeDirectory destination) = true := by
    rw [IsFolder, hdirectory, Except.ok.injEq, Bool.or_eq_true]
  split at h
  · rename_i hinside
    exact Or.inl ⟨hfolder.mpr hinside, (Except.ok.inj h).symm⟩
  · rename_i hinside
    exact Or.inr ⟨mt hfolder.mp hinside, (Except.ok.inj h).symm⟩

/-- The path for one of several formats: the format stands at its end, behind a dot. -/
theorem formatPath_target {path : String} (hmany : 2 ≤ s.formats.length)
    (hformat : IsExtension format.toList)
    (h : formatPath s world disk destination format = .ok path) :
    ∃ p, IsTarget s world disk destination format p ∧ p.IsNormal ∧ path = p.toString ∧
      '.' :: format.toList <:+ p.toString.toList := by
  obtain ⟨plain, hplain, h⟩ := bind_eq_ok.mp h
  have hwhole := Path.isNormal_ofString destination
  rcases outputPath_ok (mapError_eq_ok.mp hplain) with ⟨hfolder, hplain⟩ | ⟨hfolder, hplain⟩
  · have hrelative : '.' :: format.toList <:+
        (derivedName s.start world.now ++ ".callgraph." ++ format).toList := by
      refine ⟨(derivedName s.start world.now ++ ".callgraph").toList, ?_⟩
      simp [String.toList_append]
    obtain ⟨hapart, hends⟩ := hwhole.append_ends hformat hrelative
    have hother : (plain == destination) = false := by
      rw [beq_eq_false_iff_ne, hplain]
      intro hsame
      exact hapart ((Path.ofString_toString (hwhole.append _)).symm.trans (congrArg Path.ofString hsame))
    rw [hother, Bool.and_false, if_neg Bool.false_ne_true] at h
    exact ⟨_, .inside hfolder, hwhole.append _, (Except.ok.inj h).symm.trans hplain, hends⟩
  · have hboth : (decide (1 < s.formats.length) && plain == destination) = true := by
      rw [decide_eq_true (by omega), Bool.true_and, beq_iff_eq]
      exact hplain
    rw [if_pos hboth, hplain] at h
    obtain ⟨p, hp, h⟩ := bind_eq_ok.mp h
    have hp := mapError_eq_ok.mp hp
    exact ⟨p, .beside hfolder hp, (hwhole.withExtension hp).1, (Except.ok.inj h).symm,
      hwhole.withExtension_ends hp⟩

/-- With a destination, every format that is delivered is a file. -/
theorem deliver_some {delivered : Option Written} (hapart : world.backend.TellsApart)
    (houtput : s.output = some destination) (hmany : 2 ≤ s.formats.length)
    (h : deliver s world d disk format = .ok delivered) :
    ∃ w, delivered = some w ∧ Delivered s world d destination disk format w := by
  rw [deliver, houtput] at h
  obtain ⟨path, hpath, h⟩ := bind_eq_ok.mp h
  obtain ⟨w, hwritten, h⟩ := bind_eq_ok.mp h
  obtain ⟨rendering, p, hrendering, hw, hp, hdisk, hplaced⟩ := Drawing.write_ok hwritten
  have hrendered := Drawing.firstRendering_ok hrendering
  rw [render_eq_rendered] at hrendered
  have hknown := Drawing.known_of_render hrendered
  -- The format asked for goes where it belongs.
  have hown : rendering.format = format → IsTarget s world disk destination format p ∧
      '.' :: rendering.format.toList <:+ p.toString.toList := by
    intro heq
    obtain ⟨p', htarget, hnormal, rfl, hends⟩ :=
      formatPath_target hmany (hapart.isExtension (heq ▸ hknown)) hpath
    rw [if_pos heq, Path.ofString_toString hnormal] at hplaced
    rw [hplaced, heq]
    exact ⟨htarget, hends⟩
  refine ⟨w, (Except.ok.inj h).symm, ?_, ⟨rendering.bytes, hw ▸ hrendered, hdisk⟩, ?_⟩
  · rw [hw, hp]
    by_cases heq : rendering.format = format
    · exact (hown heq).2
    · rw [if_neg heq] at hplaced
      exact (Path.isNormal_ofString path).withExtension_ends hplaced
  · intro bytes hbytes
    rw [← render_eq_rendered s world d format] at hbytes
    have hfirst := Drawing.renderWithFallback_own hbytes
    have heq : rendering.format = format :=
      congrArg Rendering.format (Except.ok.inj (hrendering.symm.trans hfirst))
    exact ⟨hw.trans heq, p, (hown heq).1, hp⟩

/-! ### Formats in a row -/

/-- Paths that end in formats and lead to one location end in the same format. -/
theorem format_eq_of_location (hapart : world.backend.TellsApart) {f g path path' : String}
    {standing standing' : Standing} {location : Location} (hf : f ∈ world.backend.known)
    (hg : g ∈ world.backend.known)
    (hends : '.' :: f.toList <:+ path.toList) (hends' : '.' :: g.toList <:+ path'.toList)
    (h : disk.locate path = .ok standing) (hlocation : standing.location? = some location)
    (h' : disk.locate path' = .ok standing') (hlocation' : standing'.location? = some location) :
    f = g := by
  obtain ⟨directory, name, rfl, -, hname, -⟩ := Disk.locate_location h hlocation
  obtain ⟨directory', name', heq, -, hname', -⟩ := Disk.locate_location h' hlocation'
  obtain ⟨last, hlast, hf_ends⟩ := steps_ends (hapart.isExtension hf) hends
  obtain ⟨last', hlast', hg_ends⟩ := steps_ends (hapart.isExtension hg) hends'
  have hsame : name = name' := by simpa using (List.append_inj' heq rfl).2
  obtain rfl : last = last' := by
    rw [← Option.some.inj (hname.symm.trans hlast), ← Option.some.inj (hname'.symm.trans hlast'), hsame]
  exact hapart.eq_of_ends hf hg hf_ends hg_ends

/-- The file is on the disk, named for its format and with the drawing in it. -/
def Stands (s : Run.Settings) (world : World) (d : Drawing) (disk : Disk) (w : Written) : Prop :=
  '.' :: w.format.toList <:+ w.path.toList ∧
    ∃ location bytes, disk.locate w.path = .ok (.file location bytes) ∧
      rendered s world d w.format = .ok bytes

/-- All that has been written stands, and nothing else has changed: any other path is read as it was
before, and directories are the same. -/
structure Kept (s : Run.Settings) (world : World) (d : Drawing) (before disk : Disk)
    (written : List Written) : Prop where
  stands : ∀ w ∈ written, Stands s world d disk w
  frame : ∀ path, (∃ w ∈ written, disk.locate path = disk.locate w.path) ∨
    ∀ bytes, disk.read path = .ok bytes ↔ before.read path = .ok bytes
  isDirectory : ∀ path, disk.isDirectory path = before.isDirectory path

theorem kept_nil : Kept s world d disk disk [] where
  stands := by simp
  frame _ := Or.inr fun _ => Iff.rfl
  isDirectory _ := rfl

/-- One more format takes nothing away: where a file stood already, it was in the same format. -/
theorem Kept.deliver (hapart : world.backend.TellsApart) {before : Disk} {written : List Written}
    {w : Written} (h : Kept s world d before disk written) (hw : Delivered s world d destination disk format w) :
    Kept s world d before w.disk (written ++ [w]) := by
  obtain ⟨bytes, hrendered, hwrite⟩ := hw.written
  obtain ⟨standing, location, hlocate, hlocation, hdiffers⟩ := Disk.write_differsAt hwrite
  have hnew : w.disk.locate w.path = .ok (.file location bytes) := by
    rw [hdiffers.locate_ok hlocate, Standing.rewritten, if_pos hlocation]
  refine ⟨fun v hv => ?_, fun path => ?_, fun path => ?_⟩
  · rcases List.mem_append.mp hv with hv | hv
    · obtain ⟨hends, place, held, hplace, hheld⟩ := h.stands v hv
      refine ⟨hends, place, held, ?_, hheld⟩
      rw [hdiffers.locate_ok hplace, Standing.rewritten]
      by_cases hsame : (Standing.file place held).location? = some location
      · have hformat : v.format = w.format :=
          format_eq_of_location hapart (Drawing.known_of_render hheld) (Drawing.known_of_render hrendered)
            hends hw.ends hplace hsame hlocate hlocation
        have hbytes : held = bytes := by
          rw [hformat, hrendered] at hheld
          exact (Except.ok.inj hheld).symm
        rw [if_pos hsame, hbytes, Option.some.inj hsame]
      · rw [if_neg hsame]
    · rw [List.mem_singleton.mp hv]
      exact ⟨hw.ends, location, bytes, hnew, hrendered⟩
  · rcases h.frame path with ⟨v, hv, hpath⟩ | hpath
    · obtain ⟨-, place, held, hplace, -⟩ := h.stands v hv
      refine Or.inl ⟨v, List.mem_append_left _ hv, ?_⟩
      rw [hdiffers.locate_ok (hpath.trans hplace), hdiffers.locate_ok hplace]
    · by_cases hthere : ∃ standing, disk.locate path = .ok standing ∧ standing.location? = some location
      · obtain ⟨standing', hlocate', hlocation'⟩ := hthere
        refine Or.inl ⟨w, List.mem_append_right _ (List.mem_singleton.mpr rfl), ?_⟩
        rw [hnew, hdiffers.locate_ok hlocate', Standing.rewritten, if_pos hlocation']
      · refine Or.inr fun held => (hdiffers.read ?_ held).trans (hpath held)
        exact fun standing' hlocate' hlocation' => hthere ⟨standing', hlocate', hlocation'⟩
  · exact (hdiffers.isDirectory path).trans (h.isDirectory path)

/-- The disk once files have been written one after the other. -/
def diskAfter (disk : Disk) (written : List Written) : Disk := written.foldl (fun _ w => w.disk) disk

/-- All formats in a row: there is one file for each, and all of them stand in the end. -/
theorem Kept.deliveries (hapart : world.backend.TellsApart) {before : Disk} {written : List Written}
    {formats : List String} (houtput : s.output = some destination) (hmany : 2 ≤ s.formats.length)
    (h : Kept s world d before disk written) (hdone : (deliveries s world d disk formats).2 = none) :
    Kept s world d before (diskAfter disk (deliveries s world d disk formats).1)
        (written ++ (deliveries s world d disk formats).1) ∧
      (deliveries s world d disk formats).1.length = formats.length ∧
      ∀ format ∈ formats, ∃ w ∈ (deliveries s world d disk formats).1,
        Answers s world d destination before format w := by
  induction formats generalizing disk written with
  | nil =>
    rw [Command.deliveries, List.append_nil]
    exact ⟨h, rfl, by simp⟩
  | cons format rest ih =>
    rw [Command.deliveries] at hdone ⊢
    cases hdeliver : Command.deliver s world d disk format with
    | error e =>
      rw [hdeliver] at hdone
      cases hdone
    | ok delivered =>
      obtain ⟨w, rfl, hw⟩ := deliver_some hapart houtput hmany hdeliver
      rw [hdeliver] at hdone
      obtain ⟨hkept, hlength, hall⟩ := ih (h.deliver hapart hw) hdone
      rw [List.append_assoc] at hkept
      refine ⟨hkept, congrArg (· + 1) hlength, fun asked hasked => ?_⟩
      rcases List.mem_cons.mp hasked with rfl | hasked
      · refine ⟨w, List.mem_cons_self .., fun bytes hbytes => ?_⟩
        obtain ⟨hformat, p, htarget, hp⟩ := hw.own bytes hbytes
        exact ⟨hformat, p, htarget.of_isDirectory h.isDirectory, hp⟩
      · obtain ⟨w', hw', hanswers⟩ := hall asked hasked
        exact ⟨w', List.mem_cons_of_mem _ hw', hanswers⟩

end Format

/-! ### The whole session -/

section Session
variable {r : GraphRequest} {s : Run.Settings} {world : World}

/-- A loop that comes to its end leaves the disk of its last delivery. -/
theorem writeFormats_done {d : Drawing} {t : Transcript} {formats : List String}
    (h : (writeFormats r s world d t formats).2 = none) :
    (deliveries s world d t.disk formats).2 = none ∧
      (writeFormats r s world d t formats).1.disk =
        diskAfter t.disk (deliveries s world d t.disk formats).1 := by
  induction formats generalizing t with
  | nil => exact ⟨rfl, rfl⟩
  | cons format rest ih =>
    have hformat := writeFormat_cases r s world d t format
    rw [writeFormats] at h ⊢
    rw [deliveries]
    generalize writeFormat r s world d t format = step at h hformat ⊢
    obtain ⟨t', failure⟩ := step
    cases failure with
    | some failure => cases h
    | none =>
      cases hdeliver : deliver s world d t.disk format with
      | error e =>
        rw [hdeliver] at hformat
        cases hformat
      | ok delivered =>
        rw [hdeliver] at hformat
        cases delivered with
        | none =>
          have hdisk : t'.disk = t.disk := hformat.2
          rw [← hdisk]
          exact ih h
        | some w =>
          have hdisk : t'.disk = w.disk := hformat.2
          dsimp only
          rw [← hdisk]
          have hrest := ih h
          exact ⟨hrest.1, hrest.2.trans (by rw [diskAfter, diskAfter, List.foldl_cons, hdisk])⟩

/-- A session that ends well has run and delivered every format. -/
theorem graph_done (hsettings : loadSettings world.libraries world.disk r.settingsFile r.overrides = .ok s)
    (hexit : (graph world r).exitCode = 0) :
    ∃ result, (run world.disk s r.files).2 = .ok result ∧
      (deliveries s world result.drawing world.disk s.formats).2 = none ∧
      (graph world r).transcript.disk =
        diskAfter world.disk (deliveries s world result.drawing world.disk s.formats).1 := by
  have hfailure : (drawGraph world r).2 = none := by
    by_contra hsome
    obtain ⟨failure, hsome⟩ := Option.ne_none_iff_exists'.mp hsome
    have hcode := (close_some { (drawGraph world r).1 with
      logs := shownLogs r.verbose (drawGraph world r).1.logs } world.reports isExpected failure).1
    rw [← hsome] at hcode
    cases hexit.symm.trans hcode
  have hdisk : (graph world r).transcript.disk = (drawGraph world r).1.disk := by
    rw [graph]
    dsimp only
    rw [hfailure]
    rfl
  rw [hdisk]
  cases hrun : (run world.disk s r.files).2 with
  | error e =>
    rw [drawGraph, hsettings] at hfailure
    dsimp only at hfailure
    rw [hrun] at hfailure
    cases hfailure
  | ok result =>
    refine ⟨result, rfl, ?_⟩
    obtain ⟨t, hstart, ⟨refusal, -, hdraw⟩ | ⟨-, hdraw⟩⟩ := drawGraph_of_run hsettings hrun
    · rw [hdraw] at hfailure
      cases hfailure
    · rw [hdraw] at hfailure ⊢
      rw [← hstart]
      exact writeFormats_done hfailure

/-- Of the drawings that have been written none is lost: each is in its file at the end, those that
could be had as they were asked for are where they belong, and no other file has changed. -/
structure NoneLost (s : Run.Settings) (world : World) (d : Drawing) (destination : String)
    (written : List Written) (final : Disk) : Prop where
  one_each : written.length = s.formats.length
  holds : ∀ w ∈ written, '.' :: w.format.toList <:+ w.path.toList ∧
    ∃ bytes, rendered s world d w.format = .ok bytes ∧ final.read w.path = .ok bytes
  own : ∀ format ∈ s.formats, ∀ bytes, rendered s world d format = .ok bytes →
    ∃ w ∈ written, w.format = format ∧ final.read w.path = .ok bytes ∧
      ∃ p, IsTarget s world world.disk destination format p ∧ w.path = p.toString
  frame : ∀ path, (∃ w ∈ written, final.locate path = final.locate w.path) ∨
    ∀ bytes, final.read path = .ok bytes ↔ world.disk.read path = .ok bytes

/-- **Among several formats no drawing is lost.** When a session with a destination and two or more
formats ends well, it has written one file for each format, and at the end each of these files ends in
a dot and the format that it is in, and holds the drawing in that format. A format that can be had is
where it belongs, whatever the others have been replaced by. This holds of any backend whose formats tell
files apart, and of disks without links. -/
theorem graph_keeps_drawings {destination : String} (hapart : world.backend.TellsApart)
    (hsettings : loadSettings world.libraries world.disk r.settingsFile r.overrides = .ok s)
    (houtput : s.output = some destination) (hmany : 2 ≤ s.formats.length)
    (hexit : (graph world r).exitCode = 0) :
    ∃ result, (run world.disk s r.files).2 = .ok result ∧
      NoneLost s world result.drawing destination
        (deliveries s world result.drawing world.disk s.formats).1 (graph world r).transcript.disk := by
  obtain ⟨result, hrun, hdone, hdisk⟩ := graph_done hsettings hexit
  obtain ⟨hkept, hlength, hall⟩ := kept_nil.deliveries hapart houtput hmany hdone
  rw [← hdisk, List.nil_append] at hkept
  have hholds : ∀ w ∈ (deliveries s world result.drawing world.disk s.formats).1, ∃ bytes,
      rendered s world result.drawing w.format = .ok bytes ∧
        (graph world r).transcript.disk.read w.path = .ok bytes := by
    intro w hw
    obtain ⟨-, location, bytes, hlocate, hbytes⟩ := hkept.stands w hw
    exact ⟨bytes, hbytes, Disk.read_eq_ok_iff.mpr ⟨location, hlocate⟩⟩
  refine ⟨result, hrun, hlength, fun w hw => ⟨(hkept.stands w hw).1, hholds w hw⟩, ?_, hkept.frame⟩
  intro format hformat bytes hbytes
  obtain ⟨w, hw, hanswers⟩ := hall format hformat
  obtain ⟨rfl, htarget⟩ := hanswers bytes hbytes
  obtain ⟨held, hheld, hread⟩ := hholds w hw
  rw [hbytes] at hheld
  cases hheld
  exact ⟨w, hw, rfl, hread, htarget⟩

theorem tellsApart_usual (draw : String → Answer) : (usualBackend draw).TellsApart where
  extension := by
    show ∀ f ∈ ["dot", "gv", "json"] ++ knownFormats, _
    decide +kernel
  apart := by
    show ∀ f ∈ ["dot", "gv", "json"] ++ knownFormats, ∀ g ∈ ["dot", "gv", "json"] ++ knownFormats, _
    decide +kernel

/-- Two formats that end up in one file, since the first has to be replaced by the second, and one
with a dot in its name. -/
theorem graph_keeps_drawings_sharedFile :
    let draw : String → Answer := fun format =>
      if format = "svg" then .image [1] else if format = "xdot1.2" then .image [2] else .missing
    let disk : Disk := { entries := [(["a.pl"], .file (encode "sub f \x7b\n\x7d\n".toList))] }
    let world := World.usual 80 disk draw ⟨2024, 1, 1, 0, 0, 0⟩
    let r : GraphRequest :=
      { files := ["a.pl"], formats := ["png", "svg", "xdot1.2", "json"], output := some "out.tar.gz" }
    let s : Run.Settings := { formats := ["png", "svg", "xdot1.2", "json"], output := some "out.tar.gz" }
    (world.backend.TellsApart ∧ loadSettings world.libraries world.disk r.settingsFile r.overrides = .ok s ∧
        (graph world r).exitCode = 0) ∧
      ∃ result, (run world.disk s r.files).2 = .ok result ∧
        NoneLost s world result.drawing "out.tar.gz"
          (deliveries s world result.drawing world.disk s.formats).1 (graph world r).transcript.disk := by
  intro draw disk world r s
  have hapart : world.backend.TellsApart := tellsApart_usual draw
  have hsettings : loadSettings world.libraries world.disk r.settingsFile r.overrides = .ok s := by
    decide +kernel
  have hexit : (graph world r).exitCode = 0 := by decide +kernel
  exact ⟨⟨hapart, hsettings, hexit⟩, graph_keeps_drawings hapart hsettings rfl (by decide) hexit⟩

end Session

end Command

end PerlCalls
