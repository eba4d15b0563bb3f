import Mathlib
import PerlCalls.Proofs.Asides

/-! How the lines of a file end does not matter.

A file may end its lines in one of three ways, and leave the last line open. The bytes that end a line are
ASCII, so they end every character that is being read, complete or not (`readBytes_ascii`), and no character
of a line is taken for one of them (`not_mem_decodeLossy`). The text of the file therefore has the lines that
were written (`lines_written`), an empty one at the very end apart. That one would tell nothing
(`scanLines_concat_nil`), so the tally is that of the lines themselves. -/
namespace PerlCalls

namespace Text

/-! ### Lines that are written -/

/-- A way to end a line. -/
inductive LineEnd where
  | lf
  | crlf
  | cr

def LineEnd.bytes : LineEnd → List UInt8
  | .lf => [0x0A]
  | .crlf => [0x0D, 0x0A]
  | .cr => [0x0D]

def LineEnd.chars : LineEnd → List Char
  | .lf => ['\n']
  | .crlf => ['\r', '\n']
  | .cr => ['\r']

/-- The lines one after the other, each with its end. If the file is not `closed`, the last has none. -/
def written {α : Type} (ending : List α) (closed : Bool) : List (List α) → List α
  | [] => []
  | [line] => if closed then line ++ ending else line
  | line :: next :: rest => line ++ (ending ++ written ending closed (next :: rest))

/-! ### Bytes -/

/-- The character that is being read will not be one of ASCII. -/
def Reading.IsWide : Reading → Prop
  | .between => True
  | .within acc left lo _ => 0x80 ≤ lo ∧ 0x80 ≤ (acc * 64 + (lo - 0x80)) * 64 ^ (left - 1)

theorem isWide_between : Reading.between.IsWide := trivial

theorem openChar_ascii {b : UInt8} (h : b.toNat < 0x80) :
    openChar b = ([some (Char.ofNat b.toNat)], .between) := by
  rw [openChar]
  exact if_pos h

/-- What a byte read as the first of a character can do. -/
inductive Opens (b : UInt8) : List (Option Char) × Reading → Prop where
  | ascii : b.toNat < 0x80 → Opens b ([some (Char.ofNat b.toNat)], .between)
  | fault : 0x80 ≤ b.toNat → Opens b ([none], .between)
  | wide {r : Reading} : 0x80 ≤ b.toNat → r.IsWide → Opens b ([], r)

theorem opens_openChar (b : UInt8) : Opens b (openChar b) := by
  unfold openChar
  refine iteInduction (motive := Opens b) .ascii fun hascii => ?_
  have hb : 0x80 ≤ b.toNat := Nat.le_of_not_lt hascii
  refine iteInduction (motive := Opens b) (fun _ => .fault hb) fun hC2 => ?_
  refine iteInduction (motive := Opens b) (fun _ => .wide hb ⟨le_rfl, by norm_num; omega⟩) fun hE0 => ?_
  refine iteInduction (motive := Opens b) (fun _ => .wide hb ⟨by decide, by decide⟩) fun hne => ?_
  have hE1 : b.toNat ≠ 0xE0 := mt beq_iff_eq.mpr hne
  refine iteInduction (motive := Opens b) (fun _ => .wide hb ⟨by decide, by decide⟩) fun _ => ?_
  refine iteInduction (motive := Opens b) (fun _ => .wide hb ⟨le_rfl, by norm_num; omega⟩) fun hF0 => ?_
  refine iteInduction (motive := Opens b) (fun _ => .wide hb ⟨by decide, by decide⟩) fun hne => ?_
  have hF1 : b.toNat ≠ 0xF0 := mt beq_iff_eq.mpr hne
  refine iteInduction (motive := Opens b) (fun _ => .wide hb ⟨le_rfl, by norm_num; omega⟩) fun _ => ?_
  exact iteInduction (motive := Opens b) (fun _ => .wide hb ⟨by decide, by decide⟩) fun _ => .fault hb

theorem Opens.isWide {b : UInt8} {opened : List (Option Char) × Reading} (h : Opens b opened) :
    opened.2.IsWide := by
  cases h with
  | ascii _ => exact isWide_between
  | fault _ => exact isWide_between
  | wide _ hwide => exact hwide

theorem Opens.eq_of_mem {b : UInt8} {opened : List (Option Char) × Reading} (h : Opens b opened) {c : Char}
    (hc : some c ∈ opened.1) : c = Char.ofNat b.toNat := by
  cases h with
  | ascii _ => simpa using hc
  | fault _ => simp at hc
  | wide _ _ => simp at hc

theorem isWide_readByte {r : Reading} (h : r.IsWide) (b : UInt8) : (readByte r b).2.IsWide := by
  cases r with
  | between => exact (opens_openChar b).isWide
  | within acc left lo hi =>
    obtain ⟨hlow, hwide⟩ := h
    rw [readByte]
    split_ifs with hnext hlast
    · exact trivial
    · simp only [Bool.and_eq_true, decide_eq_true_eq] at hnext
      obtain ⟨k, rfl⟩ : ∃ k, left = k + 2 := ⟨left - 2, by omega⟩
      refine ⟨le_rfl, hwide.trans ?_⟩
      show _ ≤ ((acc * 64 + (b.toNat - 0x80)) * 64 + 0) * 64 ^ k
      calc (acc * 64 + (lo - 0x80)) * 64 ^ (k + 1)
          ≤ (acc * 64 + (b.toNat - 0x80)) * 64 ^ (k + 1) := by gcongr; exact hnext.1
        _ = ((acc * 64 + (b.toNat - 0x80)) * 64 + 0) * 64 ^ k := by ring
    · exact (opens_openChar b).isWide

/-- A character of ASCII is read from its own byte. -/
theorem mem_readByte {r : Reading} (h : r.IsWide) {b : UInt8} {c : Char} (hc : some c ∈ (readByte r b).1)
    (hpos : 0 < c.toNat) (hascii : c.toNat < 0x80) : c = Char.ofNat b.toNat := by
  cases r with
  | between => exact (opens_openChar b).eq_of_mem hc
  | within acc left lo hi =>
    obtain ⟨hlow, hwide⟩ := h
    rw [readByte] at hc
    split_ifs at hc with hnext hlast
    · simp only [Bool.and_eq_true, decide_eq_true_eq] at hnext
      have hexp : left - 1 = 0 := by omega
      rw [hexp, pow_zero, mul_one] at hwide
      simp only [List.mem_singleton, Option.some.injEq] at hc
      -- A number that is no character at all stands for NUL.
      rw [hc, Char.toNat_ofNat] at hpos hascii
      split_ifs at hpos hascii
      · omega
      · omega
    · simp at hc
    · simp only [List.mem_cons, reduceCtorEq, false_or] at hc
      exact (opens_openChar b).eq_of_mem hc

/-- A byte of ASCII ends the character that is being read, and is read as itself. -/
theorem readBytes_ascii {r : Reading} (h : r.IsWide) (head : List UInt8) {b : UInt8} (hb : b.toNat < 0x80)
    (rest : List UInt8) :
    readBytes r (head ++ b :: rest) =
      readBytes r head ++ some (Char.ofNat b.toNat) :: readBytes .between rest := by
  induction head generalizing r with
  | nil =>
    rw [List.nil_append, readBytes]
    cases r with
    | between =>
      rw [readByte, openChar_ascii hb]
      rfl
    | within acc left lo hi =>
      have hends : ¬(lo ≤ b.toNat && b.toNat ≤ hi) = true := by
        simp only [Bool.and_eq_true, decide_eq_true_eq, not_and]
        have hlow := h.1
        omega
      rw [readByte, if_neg hends, openChar_ascii hb]
      rfl
  | cons first head ih =>
    rw [List.cons_append, readBytes, readBytes, ih (isWide_readByte h first), List.append_assoc]

theorem decodeLossy_ascii (head : List UInt8) {b : UInt8} (hb : b.toNat < 0x80) (rest : List UInt8) :
    decodeLossy (head ++ b :: rest) = decodeLossy head ++ Char.ofNat b.toNat :: decodeLossy rest := by
  rw [decodeLossy, readBytes_ascii isWide_between head hb, List.map_append]
  rfl

theorem mem_readBytes {r : Reading} (h : r.IsWide) {bytes : List UInt8} {c : Char}
    (hc : some c ∈ readBytes r bytes) (hpos : 0 < c.toNat) (hascii : c.toNat < 0x80) :
    ∃ b ∈ bytes, c = Char.ofNat b.toNat := by
  induction bytes generalizing r with
  | nil => cases r <;> simp [readBytes] at hc
  | cons b bytes ih =>
    rw [readBytes] at hc
    rcases List.mem_append.mp hc with hc | hc
    · exact ⟨b, List.mem_cons_self .., mem_readByte h hc hpos hascii⟩
    · obtain ⟨b', hb', heq⟩ := ih (isWide_readByte h b) hc
      exact ⟨b', List.mem_cons_of_mem _ hb', heq⟩

/-- No character of ASCII comes from other bytes than its own. -/
theorem mem_of_mem_decodeLossy {bytes : List UInt8} {c : Char} (h : c ∈ decodeLossy bytes)
    (hpos : 0 < c.toNat) (hascii : c.toNat < 0x80) : c.toNat.toUInt8 ∈ bytes := by
  obtain ⟨read, hread, hc⟩ := List.mem_map.mp h
  cases read with
  | none =>
    rw [← hc] at hascii
    exact absurd hascii (by decide)
  | some d =>
    obtain rfl : d = c := hc
    obtain ⟨b, hb, rfl⟩ := mem_readBytes isWide_between hread hpos hascii
    have hvalid : (Char.ofNat b.toNat).toNat = b.toNat := by
      rw [Char.toNat_ofNat]
      exact if_pos (Or.inl (by have := b.toNat_lt; omega))
    rw [hvalid]
    simpa using hb

/-- The bytes hold nothing that ends a line. -/
def IsUnbroken (line : List UInt8) : Prop := 0x0A ∉ line ∧ 0x0D ∉ line

theorem IsUnbroken.decodeLossy {line : List UInt8} (h : IsUnbroken line) :
    ∀ c ∈ decodeLossy line, c ≠ '\n' ∧ c ≠ '\r' := by
  intro c hc
  constructor
  · rintro rfl
    exact h.1 (mem_of_mem_decodeLossy hc (by decide) (by decide))
  · rintro rfl
    exact h.2 (mem_of_mem_decodeLossy hc (by decide) (by decide))

theorem decodeLossy_ending (line : List UInt8) (e : LineEnd) (rest : List UInt8) :
    decodeLossy (line ++ (e.bytes ++ rest)) = decodeLossy line ++ (e.chars ++ decodeLossy rest) := by
  cases e with
  | lf => exact decodeLossy_ascii line (by decide) rest
  | cr => exact decodeLossy_ascii line (by decide) rest
  | crlf =>
    show decodeLossy (line ++ 0x0D :: ([] ++ 0x0A :: rest)) = _
    rw [decodeLossy_ascii line (by decide), decodeLossy_ascii [] (by decide)]
    rfl

/-- The text of a file is that of its lines. -/
theorem decodeLossy_written (e : LineEnd) (closed : Bool) (lines : List (List UInt8)) :
    decodeLossy (written e.bytes closed lines) = written e.chars closed (lines.map decodeLossy) := by
  induction lines with
  | nil => rfl
  | cons line rest ih =>
    cases rest with
    | nil =>
      cases closed with
      | false => rfl
      | true =>
        have hending := decodeLossy_ending line e []
        rw [List.append_nil, show decodeLossy [] = [] from rfl, List.append_nil] at hending
        exact hending
    | cons next rest =>
      rw [written, decodeLossy_ending, ih]
      rfl

/-! ### Lines that are read -/

theorem linesFrom_of_unbroken {line : List Char} (h : ∀ c ∈ line, c ≠ '\n' ∧ c ≠ '\r')
    (current rest : List Char) :
    linesFrom current (line ++ rest) = linesFrom (line.reverse ++ current) rest := by
  induction line generalizing current with
  | nil => rfl
  | cons c line ih =>
    obtain ⟨hfeed, hreturn⟩ := h c (List.mem_cons_self ..)
    have hc : (c == '\n' || c == '\r') = false := by simp [hfeed, hreturn]
    have hlines : linesFrom current (c :: (line ++ rest)) = linesFrom (c :: current) (line ++ rest) := by
      rw [linesFrom, hc]
      · rfl
      · intro _ hcr
        exact absurd hcr hreturn
    rw [List.cons_append, hlines, ih fun d hd => h d (List.mem_cons_of_mem c hd)]
    simp

/-- A line is read up to its end, unless a line feed comes after a carriage return that was to end it. -/
theorem linesFrom_ending {line : List Char} (h : ∀ c ∈ line, c ≠ '\n' ∧ c ≠ '\r') (e : LineEnd)
    {rest : List Char} (hrest : e = .cr → rest.head? ≠ some '\n') :
    linesFrom [] (line ++ (e.chars ++ rest)) = line :: linesFrom [] rest := by
  rw [linesFrom_of_unbroken h]
  cases e with
  | lf => simp [LineEnd.chars, linesFrom]
  | crlf => simp [LineEnd.chars, linesFrom]
  | cr =>
    show linesFrom _ ('\r' :: rest) = _
    rw [linesFrom]
    · simp
    · rintro more - rfl
      exact hrest rfl rfl

theorem not_mem_written_cr (closed : Bool) {lines : List (List Char)} (h : ∀ line ∈ lines, '\n' ∉ line) :
    '\n' ∉ written ['\r'] closed lines := by
  induction lines with
  | nil => exact List.not_mem_nil
  | cons line rest ih =>
    have hline := h line (List.mem_cons_self ..)
    have hrest := ih fun l hl => h l (List.mem_cons_of_mem line hl)
    cases rest with
    | nil => cases closed <;> simpa [written] using hline
    | cons next rest =>
      rw [written]
      simp [hline, hrest]

/-- The lines of a file are read as they were written, but an empty last line is no line if it has no end. -/
theorem lines_written (e : LineEnd) (closed : Bool) {ls : List (List Char)}
    (h : ∀ line ∈ ls, ∀ c ∈ line, c ≠ '\n' ∧ c ≠ '\r') :
    lines (written e.chars closed ls) = ls ∨ ls = lines (written e.chars closed ls) ++ [[]] := by
  induction ls with
  | nil => exact Or.inl rfl
  | cons line rest ih =>
    have hline := h line (List.mem_cons_self ..)
    have hmore := fun l hl => h l (List.mem_cons_of_mem line hl)
    cases rest with
    | nil =>
      cases closed with
      | true =>
        left
        have hread : linesFrom [] (line ++ (e.chars ++ [])) = line :: linesFrom [] [] :=
          linesFrom_ending hline e (by simp)
        rwa [List.append_nil] at hread
      | false =>
        have hread := linesFrom_of_unbroken hline [] []
        rw [List.append_nil, List.append_nil] at hread
        show linesFrom [] line = [line] ∨ [line] = linesFrom [] line ++ [[]]
        rw [hread]
        cases line with
        | nil => exact Or.inr rfl
        | cons c line => left; simp [linesFrom]
    | cons next rest =>
      have hread : lines (written e.chars closed (line :: next :: rest)) =
          line :: lines (written e.chars closed (next :: rest)) := by
        refine linesFrom_ending hline e fun hcr hhead => ?_
        rw [hcr] at hhead
        exact not_mem_written_cr closed (fun l hl hmem => (hmore l hl _ hmem).1 rfl)
          (List.mem_of_head? hhead)
      rw [hread]
      rcases ih hmore with hsame | hlast
      · exact Or.inl (by rw [hsame])
      · exact Or.inr (by rw [List.cons_append, ← hlast])

end Text

namespace Scan

open Text Perl Files

/-! ### Scans -/

theorem Context.role_nil (c : Context) : c.role [] = .silent := by
  simp [Context.role, closesPod, marksEnd, after?, opensPod, isSkipped, endsOrComments]

/-- An empty line at the end of a file tells nothing. -/
theorem scanLines_concat_nil (t : Tally) (s : Settings) (path : String) (lines : List (List Char)) :
    t.scanLines s path (lines ++ [[]]) = t.scanLines s path lines := by
  refine scanLines_append_silent t fun f hf => ?_
  obtain rfl := List.mem_singleton.mp hf
  have hrole := (s.contextAfter path lines).role_nil
  exact Context.findings_silent (by simp [chomp, hrole]) (by simp [chomp, hrole]) _

/-- **Line ends do not matter.** Whichever way a file ends its lines, and whether or not it ends the last, its
scan leaves what the lines themselves leave, each of them read as a text of its own. -/
theorem scanFile_lineEnds {lines : List (List UInt8)} (hlines : ∀ line ∈ lines, IsUnbroken line)
    {p : Progress} (hp : p.stopped = none) (s : Settings) (path : String) :
    ∀ (e : LineEnd) (closed : Bool) (disk : Disk), disk.read path = .ok (written e.bytes closed lines) →
      (p.scanFile s disk path).stopped = none ∧
      (p.scanFile s disk path).tally = p.tally.scanLines s path (lines.map decodeLossy) := by
  intro e closed disk hread
  have hchars : ∀ line ∈ lines.map decodeLossy, ∀ c ∈ line, c ≠ '\n' ∧ c ≠ '\r' := by
    intro line hline
    obtain ⟨bytes, hbytes, rfl⟩ := List.mem_map.mp hline
    exact (hlines bytes hbytes).decodeLossy
  have hscan : p.scanFile s disk path = { p with
      tally := p.tally.scanLines s path (Text.lines (written e.chars closed (lines.map decodeLossy)))
      log := p.log ++ [.scanned (s.identity path)
        (Text.lines (written e.chars closed (lines.map decodeLossy))).length] } := by
    rw [Progress.scanFile, hp, hread]
    simp only [decodeLossy_written]
  rw [hscan]
  refine ⟨hp, ?_⟩
  show p.tally.scanLines s path (Text.lines _) = _
  rcases lines_written e closed hchars with hsame | hlast
  · rw [hsame]
  · nth_rewrite 2 [hlast]
    rw [scanLines_concat_nil]

/-- A file with an incomplete character and an empty last line, with two of its six ways to end lines. -/
theorem scanFile_lineEnds_emptyLast :
    let lines := ["", "sub f \x7b", "g(1);"].map (fun line => encode line.toList) ++ [[0xE2, 0x82], []]
    let disk : LineEnd → Bool → Disk := fun e closed =>
      { entries := [(["a.pl"], .file (written e.bytes closed lines))] }
    let scan : Disk → Progress := fun d => ({} : Progress).scanFile { extent := .braceDepth } d "a.pl"
    (∀ line ∈ lines, IsUnbroken line) ∧
      (disk .cr true).read "a.pl" = .ok (written LineEnd.cr.bytes true lines) ∧
      (disk .crlf false).read "a.pl" = .ok (written LineEnd.crlf.bytes false lines) ∧
      (scan (disk .cr true)).tally = (scan (disk .crlf false)).tally ∧
      (scan (disk .cr true)).tally.definitions.find? ⟨"a.pl", "f"⟩ = some ⟨"f", "a.pl", 2, false⟩ := by
  intro lines disk scan
  have hlines : ∀ line ∈ lines, IsUnbroken line := by
    unfold IsUnbroken
    decide +kernel
  have hcr : (disk .cr true).read "a.pl" = .ok (written LineEnd.cr.bytes true lines) := rfl
  have hcrlf : (disk .crlf false).read "a.pl" = .ok (written LineEnd.crlf.bytes false lines) := rfl
  have hscan := scanFile_lineEnds hlines (p := {}) rfl { extent := .braceDepth } "a.pl"
  obtain ⟨-, hfirst⟩ := hscan .cr true _ hcr
  obtain ⟨-, hsecond⟩ := hscan .crlf false _ hcrlf
  refine ⟨hlines, hcr, hcrlf, hfirst.trans hsecond.symm, ?_⟩
  show (Progress.scanFile _ _ _ _).tally.definitions.find? _ = _
  rw [hfirst]
  decide +kernel

end Scan

end PerlCalls
