import Mathlib
import PerlCalls.Proofs.Checks
import PerlCalls.Proofs.Formats
import PerlCalls.Run.Load

/-! Settings in layers.

Settings that have been accepted are checked again whenever overrides are put over them. Each setting is
then either read from its override or, having been accepted before, read back as it is; only formats may
still change, since normalising them is not done with at once (`merged_eq_ok_iff`). The same holds of
settings from a file, which are the first layer of those that are loaded (`merged_keeps_accepted`). All that
this takes of the library that reads values is that a value of a type is read as it is
(`Typing.IsFaithful`). -/
namespace PerlCalls.Run

open Files Input Scan Text

/-- Values that are of the types of settings are read as they are. -/
structure Typing.IsFaithful (types : Typing) : Prop where
  truth : ∀ b, types.truth (.bool b) = .ok b
  optionalText : ∀ o, types.optionalText (Settings.optionalText o) = .ok o
  texts : ∀ ts : List String, types.texts (.list (ts.map .text)) = .ok ts
  extent : ∀ extent : BodyExtent, types.extent (.text extent.label) = .ok extent

theorem Typing.isFaithful_lax : Typing.lax.IsFaithful where
  truth _ := rfl
  optionalText o := by cases o <;> rfl
  texts ts := by
    have hread : ∀ text ∈ ts, readText (.text text) = .ok text := fun _ _ => rfl
    exact readItems_eq_ok hread 0
  extent extent := by cases extent <;> rfl

section Types
variable {types : Typing}

/-! ### Reading settings -/

variable (types) in
/-- What a record says of the settings, over settings that hold where it says nothing. -/
@[mk_iff]
structure Reads (r : Record) (fallback s : Settings) : Prop where
  start : Taken r "start" types.readStart fallback.start s.start
  ignore : Taken r "ignore" types.readIgnore fallback.ignore s.ignore
  cluster : Taken r "cluster" types.truth fallback.cluster s.cluster
  stripPaths : Taken r "strip_paths" types.truth fallback.stripPaths s.stripPaths
  extent : Taken r "body_extent" types.extent fallback.extent s.extent
  formats : Taken r "formats" types.readFormats fallback.formats s.formats
  output : Taken r "output" types.optionalText fallback.output s.output
  reportAmbiguous : Taken r "report_ambiguous" types.truth fallback.reportAmbiguous s.reportAmbiguous
  /-- There is nothing else in the record. -/
  known : ∀ e ∈ r, e.1 ∈ fieldNames

theorem checkSettings_eq_ok_iff {r : Record} {s : Settings} :
    checkSettings types r = .ok s ↔ Reads types r {} s := by
  rw [checkSettings, map_eq_ok]
  simp only [Checked.both_eq_ok, Checked.feed_eq_ok, optional_eq_ok_iff, onlyFields_eq_ok_iff,
    Checked.make, Except.ok.injEq]
  -- The constructor is fed one field at a time, so the fields nest with the first one innermost.
  constructor
  · rintro ⟨⟨_, _⟩, ⟨⟨_, _, ⟨_, _, ⟨_, _, ⟨_, _, ⟨_, _, ⟨_, _, ⟨_, _, ⟨_, _, rfl, hstart, rfl⟩, hignore,
      rfl⟩, hcluster, rfl⟩, hstrip, rfl⟩, hextent, rfl⟩, hformats, rfl⟩, houtput, rfl⟩, hambiguous, rfl⟩,
      hknown⟩, rfl⟩
    exact ⟨hstart, hignore, hcluster, hstrip, hextent, hformats, houtput, hambiguous, hknown⟩
  · intro h
    exact ⟨(s, ()), ⟨⟨_, _, ⟨_, _, ⟨_, _, ⟨_, _, ⟨_, _, ⟨_, _, ⟨_, _, ⟨_, _, rfl, h.start, rfl⟩, h.ignore,
      rfl⟩, h.cluster, rfl⟩, h.stripPaths, rfl⟩, h.extent, rfl⟩, h.formats, rfl⟩, h.output, rfl⟩,
      h.reportAmbiguous, rfl⟩, h.known⟩, rfl⟩

theorem textKeys_entriesOf (r : Record) : textKeys (entriesOf r) = some r := by
  induction r with
  | nil => rfl
  | cons e rest ih => exact congrArg (Option.map (e :: ·)) ih

/-- Settings are accepted if the keys are texts and the record that they make reads as the settings. -/
theorem ofEntries_eq_ok_iff {entries : List (Value × Value)} {s : Settings} :
    Settings.ofEntries types entries = .ok s ↔ ∃ r, textKeys entries = some r ∧ Reads types r {} s := by
  rw [Settings.ofEntries]
  cases textKeys entries with
  | none => simp
  | some r => simp [Settings.ofRecord, mapError_eq_ok, checkSettings_eq_ok_iff]

/-! ### Reading settings back -/

theorem checkPattern_eq_ok {p q : String} (h : checkPattern p = .ok q) : p = q := by
  rw [checkPattern] at h
  split at h
  · exact Except.ok.inj h
  · cases h

theorem checkPatterns_eq_ok {ps qs : List String} (h : checkPatterns ps = .ok qs) : ps = qs := by
  induction ps generalizing qs with
  | nil => exact Except.ok.inj h
  | cons p rest ih =>
    rw [checkPatterns] at h
    split at h
    · cases h
    · obtain ⟨qs', hrest, rfl⟩ := map_eq_ok.mp h
      rw [ih hrest]

/-- A start pattern that has been accepted is accepted as it is. -/
theorem readStart_again (htypes : types.IsFaithful) {v : Value} {start : Option String}
    (h : types.readStart v = .ok start) : types.readStart (Settings.optionalText start) = .ok start := by
  cases start with
  | none => rw [Typing.readStart, htypes.optionalText]
  | some p =>
    rw [Typing.readStart] at h
    split at h
    · obtain ⟨q, hq, hp⟩ := map_eq_ok.mp h
      obtain rfl := Option.some.inj hp
      rw [checkPattern_eq_ok hq] at hq
      rw [Typing.readStart, htypes.optionalText]
      exact map_eq_ok.mpr ⟨q, hq, rfl⟩
    · rename_i hother
      exact absurd h (hother p)

theorem readIgnore_again (htypes : types.IsFaithful) {v : Value} {ignore : List String}
    (h : types.readIgnore v = .ok ignore) : types.readIgnore (.list (ignore.map .text)) = .ok ignore := by
  rw [Typing.readIgnore] at h
  split at h
  · rename_i patterns _
    rw [checkPatterns_eq_ok h] at h
    rw [Typing.readIgnore, htypes.texts]
    exact h
  · cases h

theorem readFormats_texts (htypes : types.IsFaithful) (formats : List String) :
    types.readFormats (.list (formats.map .text)) = .ok (normalFormats formats) := by
  rw [Typing.readFormats, htypes.texts]
  rfl

variable (types) in
/-- What can be said of settings that a record has given. -/
structure IsAccepted (s : Settings) : Prop where
  start : types.readStart (Settings.optionalText s.start) = .ok s.start
  ignore : types.readIgnore (.list (s.ignore.map .text)) = .ok s.ignore
  formats : ∃ given, s.formats = normalFormats given

theorem Reads.isAccepted (htypes : types.IsFaithful) {r : Record} {s : Settings} (h : Reads types r {} s) :
    IsAccepted types s where
  start := h.start.elim (P := fun start => types.readStart (Settings.optionalText start) = .ok start)
    (fun _ => readStart_again htypes) (by rw [Typing.readStart, htypes.optionalText])
  ignore := h.ignore.elim (P := fun ignore => types.readIgnore (.list (ignore.map .text)) = .ok ignore)
    (fun _ => readIgnore_again htypes) (by rw [Typing.readIgnore, htypes.texts]; rfl)
  formats := h.formats.elim (P := fun formats => ∃ given, formats = normalFormats given)
    (fun v hv => by
      obtain ⟨given, -, hgiven⟩ := map_eq_ok.mp hv
      exact ⟨given, hgiven.symm⟩)
    ⟨[], rfl⟩

/-! ### Overrides -/

/-- The overrides that are not null. -/
def effective (overrides : Record) : Record := overrides.filter (fun e => !Settings.isNull e.2)

theorem lookup_override {base changes : Record} {name : String} {v : Value}
    (h : base.lookup name = some v) :
    (Settings.override base changes).lookup name = some ((changes.lookup name).getD v) := by
  have hmap : (base.map (fun e => (e.1, (changes.lookup e.1).getD e.2))).lookup name =
      some ((changes.lookup name).getD v) := by
    induction base with
    | nil => cases h
    | cons e rest ih =>
      rw [List.lookup_cons] at h
      rw [List.map_cons, List.lookup_cons]
      split at h
      · rename_i hname
        obtain rfl := Option.some.inj h
        rw [eq_of_beq hname]
      · exact ih h
  rw [Settings.override, List.lookup_append, hmap]
  rfl

/-- Behind overrides, a value that is read back is what there is to fall back on. -/
theorem taken_override_iff {α : Type} {base changes : Record} {name : String}
    {read : Value → Checked α} {v : Value} {own : α} (hname : base.lookup name = some v)
    (hown : read v = .ok own) (default value : α) :
    Taken (Settings.override base changes) name read default value ↔
      Taken changes name read own value := by
  rw [Taken, Taken, lookup_override hname]
  cases changes.lookup name with
  | some v' => rfl
  | none =>
    show read v = .ok value ↔ value = own
    rw [hown, Except.ok.injEq, eq_comm]

theorem known_override_iff {base changes : Record} (h : ∀ e ∈ base, e.1 ∈ fieldNames) :
    (∀ e ∈ Settings.override base changes, e.1 ∈ fieldNames) ↔ ∀ e ∈ changes, e.1 ∈ fieldNames := by
  rw [Settings.override, List.forall_mem_append]
  constructor
  · rintro ⟨-, hnew⟩ e he
    by_contra hunknown
    have hnone : base.lookup e.1 = none := by
      refine List.lookup_eq_none_iff.mpr fun p hp => bne_iff_ne.mpr ?_
      intro heq
      exact hunknown (heq ▸ h p hp)
    exact hunknown (hnew e (List.mem_filter.mpr ⟨he, by rw [hnone]; rfl⟩))
  · intro hchanges
    refine ⟨fun e he => ?_, fun e he => hchanges e (List.mem_filter.mp he).1⟩
    obtain ⟨e', he', rfl⟩ := List.mem_map.mp he
    exact h e' he'

theorem known_toRecord (s : Settings) : ∀ e ∈ s.toRecord, e.1 ∈ fieldNames := by
  simp [Settings.toRecord, fieldNames]

/-- Overrides are read over the settings, with their formats normalised again. -/
theorem merged_eq_ok_iff (htypes : types.IsFaithful) {base : Settings} (h : IsAccepted types base)
    {overrides : Record} {s : Settings} :
    base.merged (Settings.ofEntries types) overrides = .ok s ↔
      Reads types (effective overrides) { base with formats := normalFormats base.formats } s := by
  have hrecord : base.merged (Settings.ofEntries types) overrides = .ok s ↔
      Reads types (Settings.override base.toRecord (effective overrides)) {} s := by
    rw [Settings.merged, ← effective, ofEntries_eq_ok_iff, textKeys_entriesOf]
    simp
  rw [hrecord, reads_iff, reads_iff]
  refine and_congr (taken_override_iff rfl h.start _ _) (and_congr
    (taken_override_iff rfl h.ignore _ _) (and_congr
    (taken_override_iff rfl (htypes.truth base.cluster) _ _) (and_congr
    (taken_override_iff rfl (htypes.truth base.stripPaths) _ _) (and_congr
    (taken_override_iff rfl (htypes.extent base.extent) _ _) (and_congr
    (taken_override_iff rfl (readFormats_texts htypes base.formats) _ _) (and_congr
    (taken_override_iff rfl (htypes.optionalText base.output) _ _) (and_congr
    (taken_override_iff rfl (htypes.truth base.reportAmbiguous) _ _)
    (known_override_iff (known_toRecord base)))))))))

/-! ### Loading -/

/-- Where nothing is given, all is kept. -/
theorem reads_nil_iff {fallback s : Settings} : Reads types [] fallback s ↔ s = fallback := by
  constructor
  · intro h
    cases s
    cases fallback
    rw [Settings.mk.injEq]
    exact ⟨h.start, h.ignore, h.cluster, h.stripPaths, h.extent, h.formats, h.output,
      h.reportAmbiguous⟩
  · rintro rfl
    exact ⟨rfl, rfl, rfl, rfl, rfl, rfl, rfl, rfl, by simp⟩

theorem effective_nulls {nulls : Record} (h : ∀ e ∈ nulls, e.2 = .null) : effective nulls = [] := by
  refine List.filter_eq_nil_iff.mpr fun e he => ?_
  simp [h e he, Settings.isNull]

theorem accepted_of_settingsOfValue {libraries : Libraries} {path : String} {v : Value} {base : Settings}
    (h : settingsOfValue libraries path v = .ok base) : ∃ entries, libraries.check entries = .ok base := by
  unfold settingsOfValue at h
  split at h
  · exact ⟨[], mapError_eq_ok.mp h⟩
  · split at h
    · exact ⟨_, mapError_eq_ok.mp h⟩
    · cases h

/-- What is read from a file has been accepted. -/
theorem accepted_of_settingsOfFile {libraries : Libraries} {disk : Disk} {path : String} {base : Settings}
    (h : settingsOfFile libraries disk path = .ok base) : ∃ entries, libraries.check entries = .ok base := by
  unfold settingsOfFile at h
  split at h
  · cases h
  · split at h
    · cases h
    · exact accepted_of_settingsOfValue h

/-- The defaults, and what is read from a file, are settings that have been accepted. -/
theorem accepted_of_baseSettings {libraries : Libraries} (hdefault : libraries.check [] = .ok {})
    {disk : Disk} {file : Option String} {base : Settings}
    (h : baseSettings libraries disk file = .ok base) : ∃ entries, libraries.check entries = .ok base := by
  rw [baseSettings] at h
  split at h
  · exact ⟨[], Except.ok.inj h ▸ hdefault⟩
  · obtain ⟨found, -, h⟩ := bind_eq_ok.mp h
    split at h
    · exact accepted_of_settingsOfFile h
    · cases h

variable (types) in
theorem ofEntries_nil : Settings.ofEntries types [] = .ok {} :=
  ofEntries_eq_ok_iff.mpr ⟨[], rfl, reads_nil_iff.mpr rfl⟩

theorem isAccepted_of_ofEntries (htypes : types.IsFaithful) {entries : List (Value × Value)} {s : Settings}
    (h : Settings.ofEntries types entries = .ok s) : IsAccepted types s := by
  obtain ⟨r, -, hreads⟩ := ofEntries_eq_ok_iff.mp h
  exact hreads.isAccepted htypes

end Types

/-- **Settings that have been accepted stay as they are, their formats apart.** Checked again with
overrides that are all null, accepted settings come out with their formats normalised once more, which
changes nothing exactly if every format begins with something visible. Settings that are loaded have each
value from its override, if there is one, and else from the file or the defaults: from settings, that is,
that have been accepted and whose formats have been normalised once more. -/
theorem merged_keeps_accepted (types : Typing) (htypes : types.IsFaithful)
    (parse : String → List UInt8 → Except Refusal Value) (disk : Disk) (file : Option String)
    (overrides : Record) (s : Settings) :
    let check := Settings.ofEntries types
    ((∃ entries, check entries = .ok s) →
      ∀ nulls : Record, (∀ e ∈ nulls, e.2 = .null) →
        s.merged check nulls = .ok { s with formats := normalFormats s.formats } ∧
        (s.merged check nulls = .ok s ↔ ∀ f ∈ s.formats, beginsVisibly f = true)) ∧
    (loadSettings ⟨parse, check⟩ disk file overrides = .ok s ↔
      ∃ base, baseSettings ⟨parse, check⟩ disk file = .ok base ∧ (∃ entries, check entries = .ok base) ∧
        Reads types (effective overrides) { base with formats := normalFormats base.formats } s) := by
  intro check
  constructor
  · rintro ⟨entries, hs⟩ nulls hnulls
    have haccepted := isAccepted_of_ofEntries htypes hs
    have hmerged : s.merged check nulls = .ok { s with formats := normalFormats s.formats } := by
      rw [merged_eq_ok_iff htypes haccepted, effective_nulls hnulls, reads_nil_iff]
    refine ⟨hmerged, ?_⟩
    obtain ⟨given, hgiven⟩ := haccepted.formats
    have hsame : ({ s with formats := normalFormats s.formats } : Settings) = s ↔
        normalFormats s.formats = s.formats := by
      cases s
      simp
    rw [hmerged, Except.ok.injEq, hsame, hgiven, normalFormats_eq_self_iff]
  · rw [loadSettings, bind_eq_ok]
    refine exists_congr fun base => and_congr_right fun hbase => ?_
    obtain ⟨entries, hentries⟩ := accepted_of_baseSettings (ofEntries_nil types) hbase
    have haccepted := isAccepted_of_ofEntries htypes hentries
    rw [mapError_eq_ok, merged_eq_ok_iff htypes haccepted]
    exact (and_iff_right ⟨entries, hentries⟩).symm

/-- Settings from a record that stay as they are, with the types that run. -/
theorem merged_keeps_accepted_lax :
    Typing.lax.IsFaithful ∧
      let s : Settings := { formats := ["svg"], cluster := true }
      s.merged (Settings.ofEntries .lax) [("start", .null)] = .ok s := by
  refine ⟨Typing.isFaithful_lax, ?_⟩
  have haccepted : ∃ entries, Settings.ofEntries .lax entries =
      .ok { formats := ["svg"], cluster := true } :=
    ⟨[(.text "formats", .list [.text ".SVG"]), (.text "cluster", .text "yes")], by decide +kernel⟩
  have hkept := merged_keeps_accepted .lax Typing.isFaithful_lax (fun _ _ => .ok .null) {} none []
    { formats := ["svg"], cluster := true }
  exact ((hkept.1 haccepted [("start", .null)] (by simp)).2).mpr (by decide +kernel)

/-- Two formats that do not stay: a blank behind a dot goes only the second time, and so does a format
of nothing but a dot. -/
theorem merged_moves_formats :
    let accepted : Settings := { formats := [" dot", ""] }
    let check := Settings.ofEntries .lax
    check [(.text "formats", .list [.text ". dot", .text "."])] = .ok accepted ∧
      accepted.merged check [] = .ok { formats := ["dot"] } := by
  decide +kernel

end PerlCalls.Run
