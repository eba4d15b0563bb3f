import PerlCalls.Report.Colour

/-! Styles: attributes that are on or off, colours and a link. A style is written as words; two
ways to write the same style have one normal form. -/
namespace PerlCalls.Report

open Text

/-- The attributes of a style, in the order of its normal form, with their short names. -/
def attributes : List (String × List String) :=
  [ ("bold", ["b"]), ("dim", ["d"]), ("italic", ["i"]), ("underline", ["u"]), ("blink", []),
    ("blink2", []), ("reverse", ["r"]), ("conceal", ["c"]), ("strike", ["s"]), ("underline2", ["uu"]),
    ("frame", []), ("encircle", []), ("overline", ["o"]) ]

def attribute? (word : String) : Option String :=
  (attributes.find? (fun a => a.1 == word || a.2.contains word)).map Prod.fst

structure Style where
  /-- Attributes turned on or off. -/
  set : List (String × Bool) := []
  colour : Option String := none
  background : Option String := none
  link : Option String := none

/-- Turn an attribute on or off. -/
def Style.turn (s : Style) (name : String) (on : Bool) : Style :=
  { s with set := (name, on) :: s.set.filter (·.1 != name) }

/-- Read the words of a style. -/
def Style.read (s : Style) : List String → Except StyleFault Style
  | [] => .ok s
  | first :: rest =>
    let word := String.ofList (lower first.toList)
    if word == "on" then
      match rest with
      | colour :: rest => do
        let colour ← colourOf colour
        Style.read { s with background := some colour } rest
      | [] => .error .unknown
    else if word == "not" then
      match rest with
      | name :: rest => match attribute? name with
        | some a => Style.read (s.turn a false) rest
        | none => .error .unknown
      | [] => .error .unknown
    else if word == "link" then
      match rest with
      | target :: rest => Style.read { s with link := some target } rest
      | [] => .error .unknown
    else match attribute? word with
      | some a => Style.read (s.turn a true) rest
      | none => do
        let colour ← colourOf word
        Style.read { s with colour := some colour } rest

/-- The normal form of a style. -/
def Style.text (s : Style) : String :=
  let set := attributes.filterMap (fun a =>
    (s.set.lookup a.1).map (fun on => if on then a.1 else "not " ++ a.1))
  let parts := set ++ s.colour.toList ++ (s.background.map ("on " ++ ·)).toList ++
    (s.link.map ("link " ++ ·)).toList
  if parts.isEmpty then "none" else " ".intercalate parts

/-- The words of a text. -/
def wordsOf (cs : List Char) : List String :=
  ((splitOnChar ' ' (cs.map (fun c => if isBlank c then ' ' else c))).filter (!·.isEmpty)).map
    String.ofList

/-- The style that a text describes. -/
def styleOf (cs : List Char) : Except StyleFault Style :=
  match wordsOf cs with
  | ["none"] => .ok {}
  | words => Style.read {} words

/-- What two tags have to share to belong together: the normal form of their style, or their name in
lower case if it is no style. -/
def normalStyle (name : List Char) : Except NumberFault String :=
  match styleOf name with
  | .ok s => .ok s.text
  | .error .unknown => .ok (String.ofList (lower (trim name)))
  | .error (.number fault) => .error fault

end PerlCalls.Report
