import Mathlib
import PerlCalls.Perl.Line
import PerlCalls.Proofs.Pieces

/-! Which words of a text are calls.

A call is a whole word, with no sigil before it and an opening parenthesis behind it, blanks aside
(`IsCall`). The search goes from word to word and never looks back further than one character. It may do so
because it resumes only where no word is cut (`Resumes`): the word that lies ahead then is a whole word of the
text, and no other call begins within it (`IsFirstWord.callAt_iff`). So the search finds each call once, in the
order of their places (`calls_places`). -/
namespace PerlCalls.Perl

open Text

/-! ### Calls and their places -/

/-- The text `word ++ after` begins with the word: it goes on with no further word character. -/
structure IsFirstWord (word after : List Char) : Prop where
  nonempty : word ≠ []
  inside : ∀ c ∈ word, isWord c = true
  ends : ∀ c, after.head? = some c → isWord c = false

/-- Between `before` and `after` stands a whole word: it has no word character next to it. -/
structure IsWhole (before word after : List Char) : Prop extends IsFirstWord word after where
  begins : ∀ c, before.getLast? = some c → isWord c = false

/-- A whole word that no sigil introduces, with a parenthesis that opens behind it, blanks aside. -/
structure IsCall (before word after : List Char) : Prop extends IsWhole before word after where
  unmarked : ∀ c, before.getLast? = some c → isSigil c = false
  opened : ∃ blanks rest, after = blanks ++ '(' :: rest ∧ ∀ c ∈ blanks, isBlank c = true

/-- The call of `word` begins after `start` characters of the text. -/
def CallAt (text : List Char) (start : Nat) (word : List Char) : Prop :=
  ∃ before after, text = before ++ word ++ after ∧ before.length = start ∧ IsCall before word after

theorem opensCall_iff (after : List Char) :
    opensCall after = true ↔
      ∃ blanks rest, after = blanks ++ '(' :: rest ∧ ∀ c ∈ blanks, isBlank c = true := by
  rw [opensCall, beq_iff_eq]
  constructor
  · intro h
    obtain ⟨rest, hrest⟩ := List.head?_eq_some_iff.mp h
    refine ⟨after.takeWhile isBlank, rest, ?_, fun c hc => List.mem_takeWhile_imp hc⟩
    rw [← hrest, List.takeWhile_append_dropWhile]
  · rintro ⟨blanks, rest, rfl, hblanks⟩
    rw [List.dropWhile_append_of_pos hblanks]
    rfl

/-- A text has one first word. -/
theorem IsFirstWord.unique {word after word' after' : List Char} (h : IsFirstWord word after)
    (h' : IsFirstWord word' after') (heq : word ++ after = word' ++ after') :
    word = word' ∧ after = after' := by
  obtain ⟨hword, hafter⟩ := span_append h.inside h.ends
  obtain ⟨hword', hafter'⟩ := span_append h'.inside h'.ends
  rw [heq, hword'] at hword
  rw [heq, hafter'] at hafter
  exact ⟨hword.symm, hafter.symm⟩

/-- A line that begins with a word character has a first word. -/
theorem isFirstWord_span {c : Char} (rest : List Char) (hc : isWord c = true) :
    IsFirstWord (c :: rest.takeWhile isWord) (rest.dropWhile isWord) := by
  refine ⟨List.cons_ne_nil _ _, fun d hd => ?_, fun d hd => not_of_head?_dropWhile hd⟩
  rcases List.mem_cons.mp hd with rfl | hd
  · exact hc
  · exact List.mem_takeWhile_imp hd

/-- A call that begins behind the first part of a text lies in the second. -/
theorem CallAt.behind {before line word : List Char} {start : Nat} (h : CallAt (before ++ line) start word)
    (hstart : before.length ≤ start) :
    ∃ skipped after, line = skipped ++ (word ++ after) ∧ start = before.length + skipped.length ∧
      IsCall (before ++ skipped) word after := by
  obtain ⟨whole, after, htext, rfl, hcall⟩ := h
  rw [List.append_assoc] at htext
  obtain ⟨skipped, rfl⟩ : before <+: whole :=
    List.prefix_of_prefix_length_le ⟨line, htext⟩ (List.prefix_append ..) hstart
  rw [List.append_assoc] at htext
  exact ⟨skipped, after, List.append_cancel_left htext, List.length_append, hcall⟩

/-- No call begins at a character that is none of a word. -/
theorem not_callAt_of_not_isWord {before line word : List Char} {c : Char} (hc : isWord c = false) :
    ¬CallAt (before ++ c :: line) before.length word := by
  intro h
  obtain ⟨skipped, after, hline, hstart, hcall⟩ := h.behind le_rfl
  obtain rfl : skipped = [] := List.length_eq_zero_iff.mp (by omega)
  cases word with
  | nil => exact hcall.nonempty rfl
  | cons d word =>
    obtain rfl : c = d := (List.cons.inj hline).1
    rw [hcall.inside c (List.mem_cons_self ..)] at hc
    cases hc

/-- The one call that can begin within a word is that of the word. -/
theorem IsFirstWord.callAt_iff {before head beyond word : List Char} {start : Nat}
    (hhead : IsFirstWord head beyond) (hfrom : before.length ≤ start)
    (hto : start < before.length + head.length) :
    CallAt (before ++ (head ++ beyond)) start word ↔
      start = before.length ∧ word = head ∧ IsCall before head beyond := by
  constructor
  · intro h
    obtain ⟨skipped, after, hline, rfl, hcall⟩ := h.behind hfrom
    have hbegun : skipped <+: head :=
      List.prefix_of_prefix_length_le ⟨_, hline.symm⟩ (List.prefix_append ..) (by omega)
    -- What has been skipped would end in a word character, which no call has before it.
    have hskipped : skipped = [] := by
      by_contra hne
      obtain ⟨front, c, rfl⟩ := (List.eq_nil_or_concat' skipped).resolve_left hne
      rw [← List.append_assoc] at hcall
      have hlast := hcall.begins c List.getLast?_concat
      rw [hhead.inside c (hbegun.subset (by simp))] at hlast
      cases hlast
    subst hskipped
    rw [List.append_nil] at hcall
    obtain ⟨rfl, rfl⟩ := hhead.unique hcall.toIsFirstWord hline
    exact ⟨rfl, rfl, hcall⟩
  · rintro ⟨rfl, rfl, hcall⟩
    exact ⟨before, beyond, by rw [List.append_assoc], rfl, hcall⟩

/-! ### The search -/

/-- The search may resume between `before` and `line`: it knows whether a sigil comes right before, and no
word is cut. -/
structure Resumes (sigil : Bool) (before line : List Char) : Prop where
  sigil : before.getLast?.any isSigil = sigil
  uncut : ∀ c d, before.getLast? = some c → line.head? = some d → isWord d = true → isWord c = false

/-- The places listed are those of the calls that begin in `line`, from left to right. -/
structure Lists (before line : List Char) (found : List (Nat × List Char)) : Prop where
  ordered : found.Pairwise fun p q => p.1 < q.1
  mem_iff : ∀ start word,
    (start, word) ∈ found ↔ before.length ≤ start ∧ CallAt (before ++ line) start word

/-- The calls that begin in the first part of a line, then those that begin in the rest. -/
theorem Lists.append {before head line : List Char} {first found : List (Nat × List Char)}
    (hordered : first.Pairwise fun p q => p.1 < q.1)
    (hfirst : ∀ start word, (start, word) ∈ first ↔
      (before.length ≤ start ∧ start < before.length + head.length) ∧
        CallAt (before ++ (head ++ line)) start word)
    (h : Lists (before ++ head) line found) : Lists before (head ++ line) (first ++ found) := by
  have hfound : ∀ start word, (start, word) ∈ found ↔
      before.length + head.length ≤ start ∧ CallAt (before ++ (head ++ line)) start word := by
    intro start word
    rw [h.mem_iff, List.length_append, List.append_assoc]
  refine ⟨List.pairwise_append.mpr ⟨hordered, h.ordered, ?_⟩, fun start word => ?_⟩
  · rintro ⟨start, word⟩ hp ⟨start', word'⟩ hq
    have hlt := ((hfirst start word).mp hp).1.2
    have hle := ((hfound start' word').mp hq).1
    show start < start'
    omega
  · rw [List.mem_append, hfirst, hfound, ← or_and_right]
    refine and_congr_left fun _ => ?_
    omega

/-- Where the search resumes, the word that lies ahead is a call if no sigil comes before it and a
parenthesis opens behind it. -/
theorem Resumes.isCall_iff {sigil : Bool} {before head beyond : List Char}
    (h : Resumes sigil before (head ++ beyond)) (hhead : IsFirstWord head beyond) :
    IsCall before head beyond ↔ sigil = false ∧ opensCall beyond = true := by
  obtain ⟨d, tail, rfl⟩ := List.exists_cons_of_ne_nil hhead.nonempty
  have hbegins : ∀ c, before.getLast? = some c → isWord c = false := fun c hc =>
    h.uncut c d hc rfl (hhead.inside d (List.mem_cons_self ..))
  have hsigil : sigil = false ↔ ∀ c, before.getLast? = some c → isSigil c = false := by
    rw [← h.sigil]
    cases before.getLast? <;> simp
  rw [hsigil, opensCall_iff]
  exact ⟨fun hcall => ⟨hcall.unmarked, hcall.opened⟩, fun ⟨hmark, hopen⟩ => ⟨⟨hhead, hbegins⟩, hmark, hopen⟩⟩

theorem not_isSigil_of_isWord {c : Char} (h : isWord c = true) : isSigil c = false := by
  rw [Bool.eq_false_iff]
  intro hsigil
  simp only [isSigil, Bool.or_eq_true, beq_iff_eq] at hsigil
  rcases hsigil with (rfl | rfl) | rfl <;> exact absurd h (by decide)

/-- Behind a word the search may resume. -/
theorem IsFirstWord.resumes {head beyond : List Char} (h : IsFirstWord head beyond) (before : List Char) :
    Resumes false (before ++ head) beyond := by
  obtain ⟨front, c, rfl⟩ := (List.eq_nil_or_concat' head).resolve_left h.nonempty
  have hc : isWord c = true := h.inside c (by simp)
  rw [← List.append_assoc]
  refine ⟨?_, fun _ d _ hd hword => ?_⟩
  · rw [List.getLast?_concat, Option.any_some, not_isSigil_of_isWord hc]
  · rw [h.ends d hd] at hword
    cases hword

/-- The word that lies ahead adds itself to the calls behind it, or nothing. -/
theorem Resumes.lists_word {sigil : Bool} {before head beyond : List Char}
    {found : List (Nat × List Char)} (h : Resumes sigil before (head ++ beyond))
    (hhead : IsFirstWord head beyond) (hfound : Lists (before ++ head) beyond found) :
    Lists before (head ++ beyond)
      ((if !sigil && opensCall beyond then [(before.length, head)] else []) ++ found) := by
  have hpos : 0 < head.length := List.length_pos_iff.mpr hhead.nonempty
  have hcall := h.isCall_iff hhead
  refine hfound.append (by split_ifs <;> simp) fun start word => ?_
  constructor
  · intro hmem
    split_ifs at hmem with hcalled
    · obtain ⟨rfl, rfl⟩ := Prod.mk.inj (List.mem_singleton.mp hmem)
      have hbounds : before.length ≤ before.length ∧ before.length < before.length + word.length := by omega
      refine ⟨hbounds, (hhead.callAt_iff hbounds.1 hbounds.2).mpr ⟨rfl, rfl, hcall.mpr ?_⟩⟩
      simpa using hcalled
    · cases hmem
  · rintro ⟨⟨hfrom, hto⟩, hat⟩
    obtain ⟨rfl, rfl, hword⟩ := (hhead.callAt_iff hfrom hto).mp hat
    rw [if_pos (by simpa using hcall.mp hword)]
    exact List.mem_singleton.mpr rfl

/-- One turn of the search at a word: what is found behind it, and the word if it is called. -/
theorem Resumes.lists_turn {sigil : Bool} {before rest : List Char} {c : Char}
    (h : Resumes sigil before (c :: rest)) (hc : isWord c = true)
    (hsearch : ∀ {before}, Resumes false before (rest.dropWhile isWord) →
      ∃ found, callWords false (rest.dropWhile isWord) = found.map Prod.snd ∧
        Lists before (rest.dropWhile isWord) found) :
    ∃ found, callWords false (rest.dropWhile isWord) = found.map Prod.snd ∧
      Lists before (c :: rest)
        ((if !sigil && opensCall (rest.dropWhile isWord) then [(before.length, c :: rest.takeWhile isWord)]
          else []) ++ found) := by
  have hfirst := isFirstWord_span rest hc
  have hsplit : c :: rest = (c :: rest.takeWhile isWord) ++ rest.dropWhile isWord := by
    rw [List.cons_append, List.takeWhile_append_dropWhile]
  rw [hsplit] at h ⊢
  obtain ⟨found, hwords, hfound⟩ := hsearch (hfirst.resumes before)
  exact ⟨found, hwords, h.lists_word hfirst hfound⟩

/-- From where it may resume, the search finds the words that are called ahead. -/
theorem callWords_lists {sigil : Bool} {before line : List Char} (h : Resumes sigil before line) :
    ∃ found, callWords sigil line = found.map Prod.snd ∧ Lists before line found := by
  fun_induction callWords sigil line generalizing before with
  | case1 sigil =>
    refine ⟨[], rfl, List.Pairwise.nil, fun start word => ?_⟩
    simp only [List.not_mem_nil, false_iff, not_and]
    intro hstart hcall
    obtain ⟨skipped, after, hline, -, hcall⟩ := hcall.behind hstart
    simp [hcall.nonempty] at hline
  | case2 sigil c rest hc beyond hcalled =>
    rename_i ih
    obtain ⟨found, hwords, hlists⟩ := h.lists_turn hc ih
    rw [if_pos hcalled] at hlists
    exact ⟨_, by rw [hwords]; rfl, hlists⟩
  | case3 sigil c rest hc beyond hcalled =>
    rename_i ih
    obtain ⟨found, hwords, hlists⟩ := h.lists_turn hc ih
    rw [if_neg hcalled] at hlists
    exact ⟨_, hwords, hlists⟩
  | case4 sigil c rest hc ih =>
    rw [Bool.not_eq_true] at hc
    have hresumes : Resumes (isSigil c) (before ++ [c]) rest := by
      refine ⟨by rw [List.getLast?_concat, Option.any_some], fun d _ hd _ _ => ?_⟩
      rw [List.getLast?_concat] at hd
      rwa [← Option.some.inj hd]
    obtain ⟨found, hwords, hfound⟩ := ih hresumes
    have hlists : Lists before ([c] ++ rest) ([] ++ found) := by
      refine hfound.append List.Pairwise.nil fun start word => ?_
      simp only [List.not_mem_nil, false_iff, not_and]
      rintro ⟨hfrom, hto⟩ hcall
      obtain rfl : start = before.length := by
        rw [List.length_singleton] at hto
        omega
      exact not_callAt_of_not_isWord hc hcall
    exact ⟨found, hwords, hlists⟩

/-- **The calls of a text are its called words.** They are listed from left to right, each as often as it
stands there: exactly the whole words with no sigil before them and an opening parenthesis behind them,
blanks aside. -/
theorem calls_places (text : List Char) :
    ∃ found : List (Nat × List Char), calls text = found.map (fun p => String.ofList p.2) ∧
      (found.Pairwise fun p q => p.1 < q.1) ∧
      ∀ start word, (start, word) ∈ found ↔ CallAt text start word := by
  have hstart : Resumes false [] text := ⟨rfl, by simp⟩
  obtain ⟨found, hwords, hlists⟩ := callWords_lists hstart
  refine ⟨found, ?_, hlists.ordered, fun start word => ?_⟩
  · rw [calls, hwords, List.map_map]
    rfl
  · simpa using hlists.mem_iff start word

example : calls "f (g(1), $h(2), @i (3), j$k(4), f\n\t(5), l m(6)".toList = ["f", "g", "f", "m"] := by
  decide +kernel

end PerlCalls.Perl
