import Mathlib
import PerlCalls.Export.Json
import PerlCalls.Proofs.DotReading
import PerlCalls.Proofs.Numerals

/-! Reading a JSON document back.

`readJson` reads any JSON text of whole numbers, white space between the tokens. A text is read as
its UTF-16 units, which are then joined to characters, so a character beyond the first plane comes
back from the two escapes it is written as. The fuel of the reader is the length of what it reads,
and a value is never deeper than its text is long; so every document that is rendered is read back
(`readJson_render`). -/
namespace PerlCalls.Export

open Text

/-! ### The reader -/

def isJsonSpace (c : Char) : Bool := c == ' ' || c == '\n' || c == '\r' || c == '\t'

def skipSpace (cs : List Char) : List Char := cs.dropWhile isJsonSpace

/-- The unit that is meant by a letter behind a backslash. -/
def escapedUnit (c : Char) : Nat :=
  if c == 'n' then '\n'.toNat
  else if c == 'r' then '\r'.toNat
  else if c == 't' then '\t'.toNat
  else if c == 'f' then '\x0c'.toNat
  else if c == 'b' then '\x08'.toNat
  else c.toNat

/-- The UTF-16 units before the next quote, and what follows the quote. -/
def readUnits : List Char → Option (List Nat × List Char)
  | [] => none
  | '"' :: rest => some ([], rest)
  | '\\' :: 'u' :: a :: b :: c :: d :: rest =>
    (readUnits rest).map (fun p => (hexNumber [a, b, c, d] :: p.1, p.2))
  | ['\\'] => none
  | '\\' :: c :: rest => (readUnits rest).map (fun p => (escapedUnit c :: p.1, p.2))
  | c :: rest => (readUnits rest).map (fun p => (c.toNat :: p.1, p.2))

/-- The first unit of a character beyond the first plane. -/
def isHighUnit (u : Nat) : Bool := 0xD800 ≤ u && u < 0xDC00

/-- The characters of a row of UTF-16 units. -/
def joinUnits : List Nat → List Char
  | [] => []
  | [u] => [Char.ofNat u]
  | u :: v :: rest =>
    if isHighUnit u then
      Char.ofNat (0x10000 + (u - 0xD800) * 0x400 + (v - 0xDC00)) :: joinUnits rest
    else Char.ofNat u :: joinUnits (v :: rest)

def readText (cs : List Char) : Option (String × List Char) :=
  (readUnits cs).map (fun p => (String.ofList (joinUnits p.1), p.2))

def readNat (cs : List Char) : Option (Nat × List Char) :=
  if (cs.takeWhile isAsciiDigit).isEmpty then none
  else some (decimalValue (cs.takeWhile isAsciiDigit), cs.dropWhile isAsciiDigit)

def readInt : List Char → Option (Int × List Char)
  | '-' :: rest => (readNat rest).map (fun p => (-(p.1 : Int), p.2))
  | cs => (readNat cs).map (fun p => ((p.1 : Int), p.2))

/-- A value without parts. -/
def readAtom : List Char → Option (Json × List Char)
  | '"' :: rest => (readText rest).map (fun p => (.text p.1, p.2))
  | 'n' :: 'u' :: 'l' :: 'l' :: rest => some (.null, rest)
  | 't' :: 'r' :: 'u' :: 'e' :: rest => some (.bool true, rest)
  | 'f' :: 'a' :: 'l' :: 's' :: 'e' :: rest => some (.bool false, rest)
  | cs => (readInt cs).map (fun p => (.int p.1, p.2))

/-- A key and the colon behind it. -/
def readKey (cs : List Char) : Option (String × List Char) :=
  match skipSpace cs with
  | '"' :: rest => (readText rest).bind fun p =>
    match skipSpace p.2 with
    | ':' :: rest => some (p.1, rest)
    | _ => none
  | _ => none

mutual

def readValue : Nat → List Char → Option (Json × List Char)
  | 0, _ => none
  | n + 1, cs => match skipSpace cs with
    | '[' :: rest => match skipSpace rest with
      | ']' :: rest => some (.list [], rest)
      | rest => do
        let (item, rest) ← readValue n rest
        let (items, rest) ← readItems n rest
        return (.list (item :: items), rest)
    | '\x7b' :: rest => match skipSpace rest with
      | '\x7d' :: rest => some (.object [], rest)
      | rest => do
        let (key, rest) ← readKey rest
        let (value, rest) ← readValue n rest
        let (fields, rest) ← readFields n rest
        return (.object ((key, value) :: fields), rest)
    | cs => readAtom cs

/-- The items after the first, to the end of the list. -/
def readItems : Nat → List Char → Option (List Json × List Char)
  | 0, _ => none
  | n + 1, cs => match skipSpace cs with
    | ']' :: rest => some ([], rest)
    | ',' :: rest => do
      let (item, rest) ← readValue n rest
      let (items, rest) ← readItems n rest
      return (item :: items, rest)
    | _ => none

/-- The fields after the first, to the end of the object. -/
def readFields : Nat → List Char → Option (List (String × Json) × List Char)
  | 0, _ => none
  | n + 1, cs => match skipSpace cs with
    | '\x7d' :: rest => some ([], rest)
    | ',' :: rest => do
      let (key, rest) ← readKey rest
      let (value, rest) ← readValue n rest
      let (fields, rest) ← readFields n rest
      return ((key, value) :: fields, rest)
    | _ => none

end

/-- The value that a text stands for, if it stands for one. -/
def readJson (cs : List Char) : Option Json :=
  (readValue cs.length cs).bind fun p => if skipSpace p.2 == [] then some p.1 else none

/-! ### Units -/

def unitsOf (c : Char) : List Nat :=
  if c.toNat < 0x10000 then [c.toNat]
  else [0xD800 + (c.toNat - 0x10000) / 0x400, 0xDC00 + (c.toNat - 0x10000) % 0x400]

theorem joinUnits_cons {u : Nat} (hu : isHighUnit u = false) (rest : List Nat) :
    joinUnits (u :: rest) = Char.ofNat u :: joinUnits rest := by
  cases rest with
  | nil => rfl
  | cons v rest => rw [joinUnits, hu, if_neg Bool.false_ne_true]

/-- A character is not a surrogate. -/
theorem isHighUnit_toNat (c : Char) : isHighUnit c.toNat = false := by
  have hvalid : c.toNat < 0xD800 ∨ 0xDFFF < c.toNat ∧ c.toNat < 0x110000 := c.valid
  simp only [isHighUnit, Bool.and_eq_false_iff, decide_eq_false_iff_not]
  omega

theorem joinUnits_flatMap (cs : List Char) : joinUnits (cs.flatMap unitsOf) = cs := by
  induction cs with
  | nil => rfl
  | cons c cs ih =>
    rw [List.flatMap_cons, unitsOf]
    by_cases hsmall : c.toNat < 0x10000
    · rw [if_pos hsmall, List.singleton_append, joinUnits_cons (isHighUnit_toNat c), ih,
        Char.ofNat_toNat]
    · have hvalid : c.toNat < 0xD800 ∨ 0xDFFF < c.toNat ∧ c.toNat < 0x110000 := c.valid
      have hhigh : isHighUnit (0xD800 + (c.toNat - 0x10000) / 0x400) = true := by
        simp only [isHighUnit, Bool.and_eq_true, decide_eq_true_eq]
        omega
      have hjoin : 0x10000 + (0xD800 + (c.toNat - 0x10000) / 0x400 - 0xD800) * 0x400 +
          (0xDC00 + (c.toNat - 0x10000) % 0x400 - 0xDC00) = c.toNat := by
        omega
      rw [if_neg hsmall, List.cons_append, List.singleton_append, joinUnits, if_pos hhigh, hjoin, ih,
        Char.ofNat_toNat]

/-! ### Numbers -/

/-- No digit follows, so a number ends here. -/
def EndsNumber (rest : List Char) : Prop := rest.takeWhile isAsciiDigit = []

theorem readNat_toDigits (n : Nat) {rest : List Char} (hrest : EndsNumber rest) :
    readNat (Nat.toDigits 10 n ++ rest) = some (n, rest) := by
  have hdigits : ∀ c ∈ Nat.toDigits 10 n, isAsciiDigit c = true :=
    fun c hc => Nat.isDigit_of_mem_toDigits (by decide) (by decide) hc
  have hafter : rest.dropWhile isAsciiDigit = rest := by
    simpa [EndsNumber] using hrest
  have hne : (Nat.toDigits 10 n).isEmpty = false := by
    simp [List.isEmpty_eq_false_iff, Nat.toDigits_ne_nil]
  rw [readNat, List.takeWhile_append_of_pos hdigits, List.dropWhile_append_of_pos hdigits, hrest,
    hafter, List.append_nil, hne, decimalValue_toDigits]
  rfl

/-- A number begins with its sign or with a digit. -/
def isNumberHead (c : Char) : Bool := c == '-' || isAsciiDigit c

theorem head_toString (n : Int) :
    ∃ c cs, (toString n).toList = c :: cs ∧ isNumberHead c = true := by
  rw [toList_toString]
  by_cases hn : 0 ≤ n
  · obtain ⟨c, cs, hcs, hc⟩ := head_toDigits n.natAbs
    refine ⟨c, cs, by rw [if_pos hn, List.nil_append, hcs], ?_⟩
    rw [isNumberHead, hc, Bool.or_true]
  · exact ⟨'-', _, by rw [if_neg hn, List.singleton_append], rfl⟩

theorem ne_of_isNumberHead {c d : Char} (hc : isNumberHead c = true) (hd : isNumberHead d = false) :
    c ≠ d := by
  rintro rfl
  rw [hc] at hd
  exact absurd hd (by decide)

theorem readInt_toString (n : Int) {rest : List Char} (hrest : EndsNumber rest) :
    readInt ((toString n).toList ++ rest) = some (n, rest) := by
  have hread := readNat_toDigits n.natAbs hrest
  rw [toList_toString]
  by_cases hn : 0 ≤ n
  · obtain ⟨c, cs, hcs, hc⟩ := head_toDigits n.natAbs
    have hminus : c ≠ '-' := by
      rintro rfl
      exact absurd hc (by decide)
    rw [if_pos hn, List.nil_append, readInt, hread, Option.map_some]
    · congr 2
      omega
    · intro rest' heq
      rw [hcs, List.cons_append, List.cons.injEq] at heq
      exact hminus heq.1
  · rw [if_neg hn, List.append_assoc, List.singleton_append, readInt, hread, Option.map_some]
    congr 2
    omega

/-! ### Texts -/

theorem readUnits_plain {c : Char} (hquote : c ≠ '"') (hslash : c ≠ '\\') (rest : List Char) :
    readUnits (c :: rest) = (readUnits rest).map (fun p => (c.toNat :: p.1, p.2)) := by
  rw [readUnits]
  · exact hquote
  · exact fun _ _ _ _ _ h => absurd h hslash
  · exact fun h => absurd h hslash
  · exact fun _ _ h => absurd h hslash

theorem readUnits_escapeUnit {n : Nat} (hn : n < 0x10000) (rest : List Char) :
    readUnits (escapeUnit n ++ rest) = (readUnits rest).map (fun p => (n :: p.1, p.2)) := by
  obtain ⟨a, b, c, d, htext, hvalue⟩ := hexText_unit hn
  rw [escapeUnit, htext]
  show (readUnits rest).map (fun p => (hexNumber [a, b, c, d] :: p.1, p.2)) = _
  rw [hvalue]

theorem readsBack_escapeJsonChar : ReadsBack readUnits escapeJsonChar unitsOf := by
  intro c rest
  by_cases hown : c ∈ ['"', '\\', '\n', '\r', '\t', '\x0c', '\x08']
  · fin_cases hown <;> rfl
  -- The others are written as they are or by their units.
  · have hvalid : c.toNat < 0xD800 ∨ 0xDFFF < c.toNat ∧ c.toNat < 0x110000 := c.valid
    simp only [List.mem_cons, List.not_mem_nil, or_false, not_or] at hown
    obtain ⟨hquote, hslash, hn, hr, ht, hf, hb⟩ := hown
    simp only [escapeJsonChar, beq_iff_eq, hquote, hslash, hn, hr, ht, hf, hb, if_false, unitsOf]
    split
    next hplain =>
      have hsmall : c.toNat < 0x10000 := by
        simp only [Bool.and_eq_true, decide_eq_true_eq] at hplain
        omega
      rw [if_pos hsmall]
      exact readUnits_plain hquote hslash rest
    next =>
      by_cases hsmall : c.toNat < 0x10000
      · rw [if_pos hsmall, if_pos hsmall]
        exact readUnits_escapeUnit hsmall rest
      · rw [if_neg hsmall, if_neg hsmall, List.append_assoc, readUnits_escapeUnit (by omega),
          readUnits_escapeUnit (by omega), Option.map_map]
        rfl

theorem readText_jsonString (s : String) (rest : List Char) :
    readText (s.toList.flatMap escapeJsonChar ++ '"' :: rest) = some (s, rest) := by
  rw [readText, readsBack_escapeJsonChar.flatMap, readUnits]
  simp [joinUnits_flatMap, String.ofList_toList]

/-! ### Values -/

theorem skipSpace_cons {c : Char} (hc : isJsonSpace c = false) (rest : List Char) :
    skipSpace (c :: rest) = c :: rest := by
  rw [skipSpace, List.dropWhile_cons_of_neg (by simp [hc])]

theorem skipSpace_lineAt (level : Nat) (rest : List Char) :
    skipSpace (lineAt level ++ rest) = skipSpace rest := by
  rw [skipSpace, List.dropWhile_append_of_pos]
  · rfl
  · intro c hc
    rcases List.mem_cons.mp hc with rfl | hc
    · rfl
    · rw [List.eq_of_mem_replicate hc]
      rfl

theorem endsNumber_renderItems (level below : Nat) (items : List Json) (rest : List Char) :
    EndsNumber (renderItems level items ++ (lineAt below ++ rest)) := by
  cases items with
  | nil => rfl
  | cons item items =>
    rw [renderItems]
    rfl

theorem endsNumber_renderFields (level below : Nat) (fields : List (String × Json))
    (rest : List Char) : EndsNumber (renderFields level fields ++ (lineAt below ++ rest)) := by
  cases fields with
  | nil => rfl
  | cons field fields =>
    rw [renderFields]
    rfl

theorem isJsonSpace_of_isNumberHead {c : Char} (hc : isNumberHead c = true) :
    isJsonSpace c = false := by
  rw [Bool.eq_false_iff]
  intro hspace
  simp only [isJsonSpace, Bool.or_eq_true, beq_iff_eq] at hspace
  rcases hspace with ((rfl | rfl) | rfl) | rfl <;> exact absurd hc (by decide)

/-- Every value begins with a character that is neither white space nor the end of a list. -/
theorem head_render (level : Nat) (j : Json) :
    ∃ c cs, j.render level = c :: cs ∧ isJsonSpace c = false ∧ c ≠ ']' := by
  cases j with
  | null => exact ⟨'n', _, rfl, rfl, by decide⟩
  | bool b => cases b <;> exact ⟨_, _, rfl, rfl, by decide⟩
  | int n =>
    obtain ⟨c, cs, hcs, hc⟩ := head_toString n
    refine ⟨c, cs, by rw [Json.render, hcs], ?_, ne_of_isNumberHead hc rfl⟩
    exact isJsonSpace_of_isNumberHead hc
  | text s => exact ⟨_, _, rfl, rfl, by decide⟩
  | list items => cases items <;> exact ⟨_, _, rfl, rfl, by decide⟩
  | object fields =>
    cases fields with
    | nil => exact ⟨_, _, rfl, rfl, by decide⟩
    | cons field fields => exact ⟨_, _, rfl, rfl, by decide⟩

theorem readValue_atom {c : Char} (hspace : isJsonSpace c = false) (hlist : c ≠ '[')
    (hobject : c ≠ '\x7b') (n : Nat) (cs : List Char) :
    readValue (n + 1) (c :: cs) = readAtom (c :: cs) := by
  rw [readValue, skipSpace_cons hspace]
  split
  next heq => exact absurd (List.cons.inj heq).1 hlist
  next heq => exact absurd (List.cons.inj heq).1 hobject
  next => rfl

theorem readAtom_int (i : Int) {rest : List Char} (hrest : EndsNumber rest) :
    readAtom ((toString i).toList ++ rest) = some (.int i, rest) := by
  obtain ⟨c, cs, hcs, hc⟩ := head_toString i
  have hread := readInt_toString i hrest
  rw [hcs, List.cons_append] at hread ⊢
  rw [readAtom, hread, Option.map_some]
  · exact fun _ h => ne_of_isNumberHead hc (by rfl) (List.cons.inj h).1
  · exact fun _ h => ne_of_isNumberHead hc (by rfl) (List.cons.inj h).1
  · exact fun _ h => ne_of_isNumberHead hc (by rfl) (List.cons.inj h).1
  · exact fun _ h => ne_of_isNumberHead hc (by rfl) (List.cons.inj h).1

theorem readKey_jsonString (key : String) (rest : List Char) :
    readKey (jsonString key ++ (": ".toList ++ rest)) = some (key, ' ' :: rest) := by
  have hkey : jsonString key ++ (": ".toList ++ rest) =
      '"' :: (key.toList.flatMap escapeJsonChar ++ '"' :: ':' :: ' ' :: rest) := by
    simp [jsonString]
  rw [readKey, hkey, skipSpace_cons rfl]
  simp only
  rw [readText_jsonString, Option.bind_some, skipSpace_cons rfl]
  rfl

theorem readKey_lineAt (level : Nat) (cs : List Char) : readKey (lineAt level ++ cs) = readKey cs := by
  rw [readKey, readKey, skipSpace_lineAt]

theorem readValue_space (n : Nat) (cs : List Char) : readValue n (' ' :: cs) = readValue n cs := by
  cases n with
  | zero => rfl
  | succ n => rfl

theorem readValue_lineAt (n level : Nat) (cs : List Char) :
    readValue n (lineAt level ++ cs) = readValue n cs := by
  cases n with
  | zero => rfl
  | succ n => rw [readValue, readValue, skipSpace_lineAt]

/-- A list with a first item. -/
theorem readValue_list {c : Char} (hspace : isJsonSpace c = false) (hc : c ≠ ']') (n level : Nat)
    (cs : List Char) :
    readValue (n + 1) ('[' :: (lineAt level ++ c :: cs)) =
      (readValue n (c :: cs)).bind fun p => (readItems n p.2).bind fun q =>
        some (.list (p.1 :: q.1), q.2) := by
  rw [readValue, skipSpace_cons rfl]
  simp only
  rw [skipSpace_lineAt, skipSpace_cons hspace]
  split
  next heq => exact absurd (List.cons.inj heq).1 hc
  next => rfl

/-- An object with a first field. -/
theorem readValue_object (n level : Nat) (key : String) (cs : List Char) :
    readValue (n + 1) ('\x7b' :: (lineAt level ++ (jsonString key ++ cs))) =
      (readKey (jsonString key ++ cs)).bind fun k => (readValue n k.2).bind fun p =>
        (readFields n p.2).bind fun q => some (.object ((k.1, p.1) :: q.1), q.2) := by
  rw [readValue, skipSpace_cons rfl]
  simp only
  rw [skipSpace_lineAt]
  rfl

mutual

/-- A value is read back, whatever follows it, as long as that does not go on with its digits. -/
theorem readValue_render (level n : Nat) (j : Json) {rest : List Char}
    (hn : (j.render level).length ≤ n) (hrest : EndsNumber rest) :
    readValue n (j.render level ++ rest) = some (j, rest) := by
  obtain ⟨c, cs, hcs, -, -⟩ := head_render level j
  obtain ⟨n, rfl⟩ : ∃ m, n = m + 1 := ⟨n - 1, by rw [hcs, List.length_cons] at hn; omega⟩
  match j with
  | .null => rfl
  | .bool true => rfl
  | .bool false => rfl
  | .int i =>
    obtain ⟨c, cs, hcs, hc⟩ := head_toString i
    have hread := readAtom_int i hrest
    rw [Json.render, hcs, List.cons_append, readValue_atom (isJsonSpace_of_isNumberHead hc)
      (ne_of_isNumberHead hc rfl) (ne_of_isNumberHead hc rfl), ← List.cons_append, ← hcs, hread]
  | .text s =>
    have hread := readText_jsonString s rest
    rw [Json.render, jsonString, List.append_assoc, List.cons_append, List.singleton_append,
      readValue_atom rfl (by decide) (by decide), readAtom, hread, Option.map_some]
  | .list [] => rfl
  | .list (item :: items) =>
    rw [Json.render] at hn ⊢
    simp only [List.length_append, List.length_cons] at hn
    obtain ⟨c, cs, hcs, hspace, hc⟩ := head_render (level + 1) item
    have hitem := readValue_render (level + 1) n item (by omega)
      (endsNumber_renderItems (level + 1) level items (']' :: rest))
    have hitems := readItems_render (level + 1) level n items rest (by omega)
    rw [hcs, List.cons_append] at hitem
    simp only [List.cons_append, List.append_assoc, List.nil_append]
    rw [hcs, List.cons_append, readValue_list hspace hc, hitem, Option.bind_some, hitems]
    rfl
  | .object [] => rfl
  | .object ((key, value) :: fields) =>
    rw [Json.render] at hn ⊢
    simp only [List.length_append, List.length_cons] at hn
    have hvalue := readValue_render (level + 1) n value (by omega)
      (endsNumber_renderFields (level + 1) level fields ('\x7d' :: rest))
    have hfields := readFields_render (level + 1) level n fields rest (by omega)
    simp only [List.cons_append, List.append_assoc, List.nil_append]
    rw [readValue_object, readKey_jsonString, Option.bind_some, readValue_space, hvalue,
      Option.bind_some, hfields]
    rfl

theorem readItems_render (level below n : Nat) (items : List Json) (rest : List Char)
    (hn : (renderItems level items).length < n) :
    readItems n (renderItems level items ++ (lineAt below ++ ']' :: rest)) = some (items, rest) := by
  obtain ⟨n, rfl⟩ : ∃ m, n = m + 1 := ⟨n - 1, by omega⟩
  match items with
  | [] =>
    rw [renderItems, List.nil_append, readItems, skipSpace_lineAt]
    rfl
  | item :: items =>
    rw [renderItems] at hn ⊢
    simp only [List.length_append, List.length_cons] at hn
    have hitem := readValue_render level n item (by omega)
      (endsNumber_renderItems level below items (']' :: rest))
    have hitems := readItems_render level below n items rest (by omega)
    simp only [List.cons_append, List.append_assoc]
    rw [readItems, skipSpace_cons rfl]
    simp only [Option.bind_eq_bind, Option.pure_def]
    rw [readValue_lineAt, hitem, Option.bind_some, hitems]
    rfl

theorem readFields_render (level below n : Nat) (fields : List (String × Json)) (rest : List Char)
    (hn : (renderFields level fields).length < n) :
    readFields n (renderFields level fields ++ (lineAt below ++ '\x7d' :: rest)) =
      some (fields, rest) := by
  obtain ⟨n, rfl⟩ : ∃ m, n = m + 1 := ⟨n - 1, by omega⟩
  match fields with
  | [] =>
    rw [renderFields, List.nil_append, readFields, skipSpace_lineAt]
    rfl
  | (key, value) :: fields =>
    rw [renderFields] at hn ⊢
    simp only [List.length_append, List.length_cons] at hn
    have hvalue := readValue_render level n value (by omega)
      (endsNumber_renderFields level below fields ('\x7d' :: rest))
    have hfields := readFields_render level below n fields rest (by omega)
    simp only [List.cons_append, List.append_assoc]
    rw [readFields, skipSpace_cons rfl]
    simp only [Option.bind_eq_bind, Option.pure_def]
    rw [readKey_lineAt, readKey_jsonString, Option.bind_some, readValue_space, hvalue,
      Option.bind_some, hfields]
    rfl

end

/-- Every rendered document is read back, with the line end behind it. -/
theorem readJson_render (j : Json) : readJson (j.render 0 ++ ['\n']) = some j := by
  have hlength : (j.render 0).length ≤ (j.render 0 ++ ['\n']).length := by
    rw [List.length_append]
    omega
  rw [readJson, readValue_render 0 _ j hlength (show EndsNumber ['\n'] from rfl)]
  rfl

end PerlCalls.Export
