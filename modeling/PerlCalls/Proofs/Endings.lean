import Mathlib
import PerlCalls.Command.Usual
import PerlCalls.Proofs.Checks
import PerlCalls.Proofs.UsualConsole

/-! How a session that draws a graph ends.

A session is to end in one of two ways: it has done what it was asked for, or it has told why not. What
decides this is its work, which can be had without telling anything, and what the console makes of the items
that tell of it (`drawGraph_failure`). A failure of the session's own is always told. One that comes from a
library is told only if its kind is expected, and any failure only if the console shows its message: a key
that is no text and a closing tag that closes nothing are enough to end a session without a word
(`graph_settled_iff`). -/
namespace PerlCalls.Command

open PerlCalls.Graph
open Files Export Report Run Scan Text

/-! ### Deliveries -/

/-- One format without the telling: what has been written, if it went to a file. -/
def deliver (s : Run.Settings) (world : World) (d : Drawing) (disk : Disk) (format : String) :
    Except WriteError (Option Written) :=
  let options : Options := { format := format, clustered := s.cluster }
  match s.output with
  | none => ((d.renderWithFallback world.backend options).2.mapError .render).map (fun _ => none)
  | some destination => do
    let path ← formatPath s world disk destination format
    let written ← (d.write world.backend options disk path).2
    return some written

/-- All formats in order: what has been written, and what has ended it. -/
def deliveries (s : Run.Settings) (world : World) (d : Drawing) (disk : Disk) :
    List String → List Written × Option WriteError
  | [] => ([], none)
  | format :: rest =>
    match deliver s world d disk format with
    | .error e => ([], some e)
    | .ok none => deliveries s world d disk rest
    | .ok (some w) =>
      let later := deliveries s world d w.disk rest
      (w :: later.1, later.2)

/-- What is told of files that have been written. -/
def deliveryItems (quiet : Bool) (written : List Written) : List Item :=
  written.flatMap (fun w => writtenItems quiet w.format w.path)

section Writing

variable (r : GraphRequest) (s : Run.Settings) (world : World) (d : Drawing)

/-- What writing in one format comes to. -/
theorem writeFormat_cases (t : Transcript) (format : String) :
    match deliver s world d t.disk format with
    | .error e => (writeFormat r s world d t format).2 = some (.write e)
    | .ok none => (writeFormat r s world d t format).2 = none ∧
        (writeFormat r s world d t format).1.disk = t.disk
    | .ok (some w) => (writeFormat r s world d t format).2 =
          (world.reports.displayAll (deliveryItems r.quiet [w])).refusal.map .shown ∧
        (writeFormat r s world d t format).1.disk = w.disk := by
  rw [deliver, writeFormat]
  cases s.output with
  | none =>
    dsimp only
    cases (d.renderWithFallback world.backend { format := format, clustered := s.cluster }).2 with
    | error e => rfl
    | ok rendering => exact ⟨rfl, rfl⟩
  | some destination =>
    dsimp only
    cases formatPath s world t.disk destination format with
    | error e => rfl
    | ok path =>
      dsimp only [bind, Except.bind]
      cases (d.write world.backend { format := format, clustered := s.cluster } t.disk path).2 with
      | error e => rfl
      | ok w =>
        have hone : deliveryItems r.quiet [w] = writtenItems r.quiet w.format w.path := by
          simp [deliveryItems]
        refine ⟨?_, rfl⟩
        rw [hone]
        rfl

/-- The whole loop: it ends with the first item that is refused, or as its deliveries do. -/
theorem writeFormats_failure (t : Transcript) (formats : List String) :
    (writeFormats r s world d t formats).2 =
      ((world.reports.displayAll (deliveryItems r.quiet (deliveries s world d t.disk formats).1)).refusal.map
        .shown).or ((deliveries s world d t.disk formats).2.map .write) := by
  induction formats generalizing t with
  | nil => rfl
  | cons format rest ih =>
    have hformat := writeFormat_cases r s world d t format
    rw [writeFormats, deliveries]
    generalize writeFormat r s world d t format = step at hformat ⊢
    obtain ⟨t', failure⟩ := step
    cases hdeliver : deliver s world d t.disk format with
    | error e =>
      rw [hdeliver] at hformat
      obtain rfl : failure = some (.write e) := hformat
      rfl
    | ok delivered =>
      rw [hdeliver] at hformat
      cases delivered with
      | none =>
        obtain ⟨rfl, hdisk⟩ : failure = none ∧ t'.disk = t.disk := hformat
        rw [← hdisk]
        exact ih t'
      | some w =>
        obtain ⟨hfailure, hdisk⟩ : failure =
            (world.reports.displayAll (deliveryItems r.quiet [w])).refusal.map .shown ∧
          t'.disk = w.disk := hformat
        have hcons : deliveryItems r.quiet (w :: (deliveries s world d w.disk rest).1) =
            deliveryItems r.quiet [w] ++ deliveryItems r.quiet (deliveries s world d w.disk rest).1 := by
          simp [deliveryItems]
        dsimp only
        rw [hcons, Console.refusal_append, Option.map_or, Option.or_assoc, ← hfailure, ← hdisk]
        cases failure with
        | none => exact ih t'
        | some failure => rfl

end Writing

/-! ### The work of a session -/

/-- What a session does, apart from telling it. -/
structure Work where
  settings : Run.Settings
  result : Result
  written : List Written
  /-- What has kept it from writing more. -/
  failure : Option WriteError

/-- The work of a session, or why it cannot begin. -/
def work (world : World) (r : GraphRequest) : Except Failure Work := do
  let s ← (loadSettings world.libraries world.disk r.settingsFile r.overrides).mapError .load
  let result ← (run world.disk s r.files).2.mapError .input
  let delivered := deliveries s world result.drawing world.disk s.formats
  return ⟨s, result, delivered.1, delivered.2⟩

/-- What is told of the work. -/
def Work.items (w : Work) (r : GraphRequest) : List Item :=
  runItems r w.settings w.result ++ deliveryItems r.quiet w.written

/-- What a session runs into first: its work cannot begin, an item is refused, or its work fails. -/
def raised (world : World) (r : GraphRequest) : Option Failure :=
  match work world r with
  | .error f => some f
  | .ok w => ((world.reports.displayAll (w.items r)).refusal.map .shown).or (w.failure.map .write)

/-- After a run the disk is as it was. The session ends there with an item that is refused, or goes on to
its formats. -/
theorem drawGraph_of_run {world : World} {r : GraphRequest} {s : Run.Settings} {result : Run.Result}
    (hsettings : loadSettings world.libraries world.disk r.settingsFile r.overrides = .ok s)
    (hrun : (run world.disk s r.files).2 = .ok result) :
    ∃ t : Transcript, t.disk = world.disk ∧
      ((∃ refusal, (world.reports.displayAll (runItems r s result)).refusal = some refusal ∧
          drawGraph world r = (t, some (.shown refusal))) ∨
        (world.reports.displayAll (runItems r s result)).refusal = none ∧
          drawGraph world r = writeFormats r s world result.drawing t s.formats) := by
  rw [drawGraph, hsettings]
  dsimp only
  rw [hrun]
  refine ⟨((({ disk := world.disk } : Transcript).note (run world.disk s r.files).1).tell world.reports
    (runItems r s result)).1, rfl, ?_⟩
  dsimp only [Transcript.tell]
  cases (world.reports.displayAll (runItems r s result)).refusal with
  | some refusal => exact .inl ⟨refusal, rfl, rfl⟩
  | none => exact .inr ⟨rfl, rfl⟩

/-- Telling on the way changes nothing about what a session runs into. -/
theorem drawGraph_failure (world : World) (r : GraphRequest) : (drawGraph world r).2 = raised world r := by
  rw [raised, work]
  cases hsettings : loadSettings world.libraries world.disk r.settingsFile r.overrides with
  | error e =>
    rw [drawGraph, hsettings]
    rfl
  | ok s =>
    dsimp only [Except.mapError, bind, Except.bind]
    cases hrun : (run world.disk s r.files).2 with
    | error e =>
      rw [drawGraph, hsettings]
      dsimp only
      rw [hrun]
    | ok result =>
      dsimp only [pure, Except.pure, Work.items]
      rw [Console.refusal_append, Option.map_or, Option.or_assoc]
      obtain ⟨t, hdisk, ⟨refusal, hrefusal, hdraw⟩ | ⟨hshown, hdraw⟩⟩ := drawGraph_of_run hsettings hrun
      · rw [hdraw, hrefusal]
        rfl
      · rw [hdraw, hshown, writeFormats_failure, hdisk]
        rfl

/-! ### Outcomes -/

/-- The failure has been told: the last thing on the console is its message, behind the word for an
error. -/
structure Outcome.Tells (o : Outcome) (console : Console) (f : Failure) : Prop where
  reported : o.reported = some f
  not_escaped : o.escaped = none
  shown : ∃ before text, console.print (errorMessage f.message) = .ok text ∧
    o.transcript.stderr = before ++ text

/-- The session has done what it was asked for, or it has told why not. -/
def Outcome.IsSettled (o : Outcome) (console : Console) : Prop :=
  (o.exitCode = 0 ∧ o.reported = none ∧ o.escaped = none) ∨ (o.exitCode = 1 ∧ ∃ f, o.Tells console f)

/-- The failure comes from a library. -/
def Failure.IsForeign : Failure → Prop
  | .load (.refused _) => True
  | .write (.render (.refused _)) => True
  | .shown _ => True
  | _ => False

theorem isExpected_accessKind (fault : Fault) : isExpected (accessKind fault) = true := by
  rw [accessKind]
  split <;> rfl

/-- A session expects all that can fail in itself. -/
theorem isExpected_of_own {f : Failure} (h : ¬ f.IsForeign) : isExpected f.kind = true := by
  cases f with
  | load e =>
    cases e with
    | refused refusal => exact absurd trivial h
    | access e => exact isExpected_accessKind e.fault
    | notFound path => rfl
    | notMapping path => rfl
  | input e =>
    rw [Failure.kind]
    split <;> rfl
  | write e =>
    cases e with
    | suffix fault => rfl
    | access e => exact isExpected_accessKind e.fault
    | render e =>
      cases e with
      | refused refusal => exact absurd trivial h
      | unavailable e => rfl
      | numberTooLong => rfl
  | shown refusal => exact absurd trivial h

/-- What is left of a failure that is to be told: nothing, the refusal to show it, or all of it. -/
def escaping (console : Console) (f : Failure) : Option Failure :=
  if isExpected f.kind then
    match console.print (errorMessage f.message) with
    | .ok _ => none
    | .error refusal => some (.shown refusal)
  else some f

theorem escaping_eq_none_iff (console : Console) (f : Failure) : escaping console f = none ↔
    isExpected f.kind = true ∧ ∃ text, console.print (errorMessage f.message) = .ok text := by
  rw [escaping]
  by_cases hexpected : isExpected f.kind = true
  · rw [if_pos hexpected]
    cases console.print (errorMessage f.message) <;> simp [hexpected]
  · simp [hexpected]

theorem isForeign_of_escaping {console : Console} {f f' : Failure} (h : escaping console f = some f') :
    f'.IsForeign := by
  rw [escaping] at h
  split at h
  · split at h
    · cases h
    · obtain rfl := Option.some.inj h
      trivial
  · rename_i hexpected
    obtain rfl := Option.some.inj h
    by_contra hown
    exact hexpected (isExpected_of_own hown)

/-- Ending early is a failure, and adds nothing to what has been printed to the standard output or
written. -/
theorem close_some (t : Transcript) (console : Console) (expected : ErrorKind → Bool)
    (failure : Failure) :
    (t.close console expected (some failure)).exitCode = 1 ∧
      (t.close console expected (some failure)).transcript.stdout = t.stdout ∧
      (t.close console expected (some failure)).transcript.disk = t.disk ∧
      ((t.close console expected (some failure)).reported = some failure ↔
        expected failure.kind = true) := by
  rw [Transcript.close]
  by_cases hexpected : expected failure.kind = true
  · rw [if_pos hexpected, Transcript.report]
    split <;> exact ⟨rfl, rfl, rfl, iff_of_true rfl hexpected⟩
  · rw [if_neg hexpected]
    exact ⟨rfl, rfl, rfl, iff_of_false nofun hexpected⟩

section Closing

variable (t : Transcript) (console : Console)

theorem close_escaped (failure : Option Failure) :
    (t.close console isExpected failure).escaped = failure.bind (escaping console) := by
  cases failure with
  | none => rfl
  | some f =>
    rw [Transcript.close, Option.bind_some, escaping]
    split
    · rw [Transcript.report, errorItem, Console.display]
      cases console.print (errorMessage f.message) <;> rfl
    · rfl

/-- A session is settled if nothing escapes. -/
theorem close_settled_iff (failure : Option Failure) :
    (t.close console isExpected failure).IsSettled console ↔
      (t.close console isExpected failure).escaped = none := by
  constructor
  · rintro (⟨-, -, hnone⟩ | ⟨-, f, htells⟩)
    · exact hnone
    · exact htells.not_escaped
  · rw [close_escaped]
    cases failure with
    | none => exact fun _ => Or.inl ⟨rfl, rfl, rfl⟩
    | some f =>
      intro hnone
      obtain ⟨hexpected, text, hprint⟩ := (escaping_eq_none_iff console f).mp hnone
      rw [Transcript.close, if_pos hexpected, Transcript.report, errorItem, Console.display, hprint]
      exact Or.inr ⟨rfl, f, rfl, rfl, t.stderr, text, hprint, rfl⟩

end Closing

theorem graph_escaped (world : World) (r : GraphRequest) :
    (graph world r).escaped = (raised world r).bind (escaping world.reports) := by
  rw [← drawGraph_failure]
  exact close_escaped _ world.reports (drawGraph world r).2

theorem graph_settled (world : World) (r : GraphRequest) :
    (graph world r).IsSettled world.reports ↔ (graph world r).escaped = none :=
  close_settled_iff _ world.reports (drawGraph world r).2

theorem not_settled_of_escaped {world : World} {r : GraphRequest} {f : Failure}
    (h : (graph world r).escaped = some f) : ¬ (graph world r).IsSettled world.reports := by
  rw [graph_settled, h]
  exact Option.some_ne_none f

/-! ### What is told, and what is not -/

/-- Names of settings are texts. -/
def RefusesOddKeys (libraries : Libraries) : Prop :=
  ∀ entries, (∃ e ∈ entries, ∀ name, e.1 ≠ Input.Value.text name) →
    ∃ message, libraries.check entries = .error ⟨.argument, message⟩

/-- The file holds a map with a key that is no text. -/
structure HasOddKey (world : World) (path : String) : Prop where
  named : path ≠ ""
  there : world.disk.pathExists (Path.ofString path).toString = .ok true
  holds : ∃ bytes entries, world.disk.read path = .ok bytes ∧
    world.libraries.parse path bytes = .ok (.map entries) ∧ ∃ e ∈ entries, ∀ name, e.1 ≠ Input.Value.text name

/-- Brackets stand neither in what is told of the work nor in its failure, and that is expected. -/
structure Work.IsPlain (w : Work) : Prop where
  calls : ∀ c ∈ w.result.graph.ambiguous, IsBareCall c
  written : ∀ x ∈ w.written, Report.IsPlain x.format.toList ∧ Report.IsPlain x.path.toList
  failure : ∀ e, w.failure = some e →
    isExpected (writeKind e) = true ∧ Report.IsPlain e.message.toList

/-- There is nothing in what the session has to tell that could be taken for a tag. -/
inductive TellsPlainly (world : World) (r : GraphRequest) : Prop where
  | failed {f : Failure} (hwork : work world r = .error f) (hkind : isExpected f.kind = true)
      (htext : Report.IsPlain f.message.toList)
  | worked {w : Work} (hwork : work world r = .ok w) (hplain : w.IsPlain)

/-- What makes a session end without a word, and the kind of failure that escapes it. -/
inductive Stumbles (world : World) (r : GraphRequest) : ErrorKind → Prop where
  /-- A setting has a name that is no text. -/
  | key {path : String} (hfile : r.settingsFile = some path) (hkey : HasOddKey world path) :
      Stumbles world r .argument
  /-- A text that is shown has a closing tag that closes nothing. -/
  | item {w : Work} {front back : List Item} {text : String} (hwork : work world r = .ok w)
      (hitems : w.items r = front ++ .message text :: back) (hfront : ∀ item ∈ front, item.IsSound)
      (htext : HasUnmatched text.toList) : Stumbles world r .markup
  /-- So has the message of the failure that is to be told. -/
  | failure {f : Failure} (hraised : raised world r = some f) (hkind : isExpected f.kind = true)
      (htext : HasUnmatched f.message.toList) : Stumbles world r .markup

theorem textKeys_eq_none {entries : List (Input.Value × Input.Value)}
    (h : ∃ e ∈ entries, ∀ name, e.1 ≠ Input.Value.text name) : textKeys entries = none := by
  induction entries with
  | nil => simp at h
  | cons e rest ih =>
    obtain ⟨key, value⟩ := e
    cases key with
    | text name =>
      have hrest : ∃ e ∈ rest, ∀ name, e.1 ≠ Input.Value.text name := by simpa using h
      rw [textKeys, ih hrest]
      rfl
    | _ => rfl

theorem refusesOddKeys_ofEntries (types : Typing)
    (parse : String → List UInt8 → Except Refusal Input.Value) :
    RefusesOddKeys ⟨parse, Settings.ofEntries types⟩ := by
  intro entries hodd
  refine ⟨"keywords must be strings", ?_⟩
  show Settings.ofEntries types entries = _
  rw [Settings.ofEntries, textKeys_eq_none hodd]

section Telling

variable {world : World} {r : GraphRequest}

theorem work_of_hasOddKey {path : String} (hrefuses : RefusesOddKeys world.libraries)
    (hfile : r.settingsFile = some path) (hkey : HasOddKey world path) :
    ∃ message, work world r = .error (.load (.refused ⟨.argument, message⟩)) := by
  obtain ⟨bytes, entries, hread, hparse, hodd⟩ := hkey.holds
  obtain ⟨message, hcheck⟩ := hrefuses entries hodd
  have hvoid : (Input.Value.map entries).isVoid = false := by
    obtain ⟨e, he, -⟩ := hodd
    cases entries with
    | nil => cases he
    | cons e rest => rfl
  have hvalue : settingsOfValue world.libraries path (.map entries) = .error (.refused ⟨.argument, message⟩) := by
    rw [settingsOfValue, hvoid, if_neg Bool.false_ne_true, hcheck]
    rfl
  have hbase : baseSettings world.libraries world.disk r.settingsFile =
      .error (.refused ⟨.argument, message⟩) := by
    have hsome : (some path).filter (fun path => !path.isEmpty) = some path := by
      simp [hkey.named]
    rw [baseSettings, hfile, hsome]
    dsimp only
    rw [hkey.there]
    show settingsOfFile world.libraries world.disk path = _
    rw [settingsOfFile, hread]
    dsimp only
    rw [hparse]
    exact hvalue
  refine ⟨message, ?_⟩
  rw [work, loadSettings, hbase]
  rfl

theorem items_sound {w : Work} (h : w.IsPlain) : ∀ item ∈ w.items r, item.IsSound := by
  refine List.forall_mem_append.mpr ⟨List.forall_mem_append.mpr ⟨isSound_summaryItems _ _, ?_⟩, ?_⟩
  · split
    · exact isSound_ambiguousItems h.calls
    · simp
  · intro item hitem
    obtain ⟨x, hx, hitem⟩ := List.mem_flatMap.mp hitem
    exact isSound_writtenItems r.quiet (h.written x hx).1 (h.written x hx).2 item hitem

/-- Plain telling runs into nothing but an expected failure with a plain message. -/
theorem TellsPlainly.raised (hconsole : world.reports.IsLawful) (h : TellsPlainly world r) {f : Failure}
    (hf : raised world r = some f) : isExpected f.kind = true ∧ Report.IsPlain f.message.toList := by
  rw [Command.raised] at hf
  cases h with
  | failed hwork hkind htext =>
    rw [hwork] at hf
    obtain rfl := Option.some.inj hf
    exact ⟨hkind, htext⟩
  | worked hwork hplain =>
    rename_i w
    rw [hwork] at hf
    dsimp only at hf
    rw [hconsole.displayAll (items_sound hplain), Option.map_none, Option.none_or, Option.map_eq_some_iff] at hf
    obtain ⟨e, he, rfl⟩ := hf
    exact hplain.failure e he

/-- What a session stumbles over escapes. -/
theorem Stumbles.escaping (hkeys : RefusesOddKeys world.libraries) (hconsole : world.reports.IsLawful)
    {kind : ErrorKind} (h : Stumbles world r kind) :
    ∃ f, (Command.raised world r).bind (Command.escaping world.reports) = some f ∧ f.kind = kind := by
  cases h with
  | key hfile hkey =>
    obtain ⟨message, hwork⟩ := work_of_hasOddKey hkeys hfile hkey
    refine ⟨.load (.refused ⟨.argument, message⟩), ?_, rfl⟩
    rw [Command.raised, hwork]
    rfl
  | item hwork hitems hfront htext =>
    rename_i w front back text
    obtain ⟨message, hrefusal⟩ : ∃ message,
        (world.reports.displayAll (w.items r)).refusal = some ⟨.markup, message⟩ := by
      rw [hitems]
      exact hconsole.displayAll_unmatched hfront htext
    refine ⟨.shown ⟨.markup, message⟩, ?_, rfl⟩
    rw [Command.raised, hwork]
    dsimp only
    rw [hrefusal]
    rfl
  | failure hraised hkind htext =>
    obtain ⟨message, hrefused⟩ := hconsole.refuses _ htext.error
    refine ⟨.shown ⟨.markup, message⟩, ?_, rfl⟩
    rw [hraised, Option.bind_some, Command.escaping, if_pos hkind, hrefused]

end Telling

/-- **A session is settled unless a library fails it.** It has done what it was asked for or told why not,
exactly if whatever it runs into is of an expected kind and can be shown. If it is not settled, its exit code
is that of a failure, and what escapes comes from a library. With plain names and expected failures it is
settled. It is not if a setting has a name that is no text, or if a closing tag that closes nothing stands in
a text that it shows or in the message of its failure: the refusal of the library is what escapes. -/
theorem graph_settled_iff (world : World) (r : GraphRequest) (hkeys : RefusesOddKeys world.libraries)
    (hconsole : world.reports.IsLawful) :
    let o := graph world r
    (o.IsSettled world.reports ↔ ∀ f, raised world r = some f →
      isExpected f.kind = true ∧ ∃ text, world.reports.print (errorMessage f.message) = .ok text) ∧
    (¬ o.IsSettled world.reports → o.exitCode = 1 ∧ ∃ f, o.escaped = some f ∧ f.IsForeign) ∧
    (TellsPlainly world r → o.IsSettled world.reports) ∧
    ∀ kind, Stumbles world r kind →
      ¬ o.IsSettled world.reports ∧ ∃ f, o.escaped = some f ∧ f.kind = kind := by
  intro o
  have hiff : o.IsSettled world.reports ↔ ∀ f, raised world r = some f →
      isExpected f.kind = true ∧ ∃ text, world.reports.print (errorMessage f.message) = .ok text := by
    rw [graph_settled, graph_escaped, Option.bind_eq_none_iff]
    exact forall₂_congr fun f _ => escaping_eq_none_iff world.reports f
  refine ⟨hiff, fun h => ?_, fun h => hiff.mpr fun f hf => ?_, fun kind h => ?_⟩
  · obtain ⟨f, hescaped⟩ := Option.ne_none_iff_exists'.mp (mt (graph_settled world r).mpr h)
    refine ⟨by simp [Outcome.exitCode, o, hescaped], f, hescaped, ?_⟩
    rw [graph_escaped] at hescaped
    obtain ⟨f', -, hf'⟩ := Option.bind_eq_some_iff.mp hescaped
    exact isForeign_of_escaping hf'
  · obtain ⟨hkind, hplain⟩ := h.raised hconsole hf
    exact ⟨hkind, hconsole.prints _ (isSound_error hplain)⟩
  · obtain ⟨f, hescaped, hkind⟩ := h.escaping hkeys hconsole
    rw [← graph_escaped] at hescaped
    exact ⟨not_settled_of_escaped hescaped, f, hescaped, hkind⟩

/-- The libraries and the console that run are as is asked of them. Of two files that are not there, one is
told of, and one with a closing tag in its name is not. -/
theorem graph_settled_iff_usual :
    let world := World.usual 80 {} (fun _ => .missing) ⟨2024, 1, 1, 0, 0, 0⟩
    (RefusesOddKeys world.libraries ∧ world.reports.IsLawful) ∧
      (graph world { files := ["a.pl"] }).IsSettled world.reports ∧
      ¬ (graph world { files := ["[/x].pl"] }).IsSettled world.reports := by
  intro world
  have hkeys : RefusesOddKeys world.libraries := refusesOddKeys_ofEntries .lax _
  have hconsole : world.reports.IsLawful := isLawful_ofWidth 80
  have hplain : TellsPlainly world { files := ["a.pl"] } := by
    have hload : loadSettings world.libraries world.disk none ({ files := ["a.pl"] } : GraphRequest).overrides =
      .ok {} := by decide +kernel
    refine .failed (f := .input ⟨"a.pl", .missing⟩) ?_ rfl (by decide)
    rw [work, hload]
    rfl
  have hraised : raised world { files := ["[/x].pl"] } = some (.input ⟨"[/x].pl", .missing⟩) := by
    decide +kernel
  have hunmatched : HasUnmatched (Failure.input ⟨"[/x].pl", .missing⟩).message.toList :=
    ⟨"Cannot read ".toList, ['x'], ".pl: No such file or directory".toList, by decide, .bare (by decide),
      by decide, List.forall_mem_singleton.mpr (by decide)⟩
  exact ⟨⟨hkeys, hconsole⟩, (graph_settled_iff world _ hkeys hconsole).2.2.1 hplain,
    ((graph_settled_iff world _ hkeys hconsole).2.2.2 _ (.failure hraised rfl hunmatched)).1⟩

/-- Two sessions that end without a word: one with a number for the name of a setting, and one with a
file that is not there and has a closing tag in its name. -/
theorem graph_unsettled :
    let now : Moment := ⟨2024, 1, 1, 0, 0, 0⟩
    let settings : Disk :=
      { entries := [(["a.pl"], .file []), (["c.yml"], .file (encode "1: x\n".toList))] }
    let numbered := World.usual 80 settings (fun _ => .missing) now
    let bracketed := World.usual 80 {} (fun _ => .missing) now
    let odd := graph numbered { files := ["a.pl"], settingsFile := some "c.yml" }
    let unmatched := graph bracketed { files := ["[/x].pl"] }
    (¬ odd.IsSettled numbered.reports ∧ odd.transcript.stderr = []) ∧
      ¬ unmatched.IsSettled bracketed.reports ∧ unmatched.transcript.stderr = [] := by
  intro now settings numbered bracketed odd unmatched
  have hodd : odd.escaped = some (.load (.refused ⟨.argument, "keywords must be strings"⟩)) ∧
      odd.transcript.stderr = [] := by decide +kernel
  have hunmatched : unmatched.escaped =
        some (.shown ⟨.markup, "closing tag '[/x]' doesn't match any open tag"⟩) ∧
      unmatched.transcript.stderr = [] := by decide +kernel
  exact ⟨⟨not_settled_of_escaped hodd.1, hodd.2⟩, not_settled_of_escaped hunmatched.1, hunmatched.2⟩

end PerlCalls.Command
