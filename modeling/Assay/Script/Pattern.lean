import Assay.Text.CharClass

/-!
The wildcards of scripts: patterns that whole texts fit.
-/

namespace Assay.Script

abbrev Glyph := Char × Bool

namespace Pattern

structure Style where
  grouped : Bool := false
  caseless : Bool := false
  wide : Bool := false

inductive Member
  | range (first last : Char)
  | named (test : Char → Bool)

inductive Item
  | char (c : Char)
  | any
  | many
  | set (negated : Bool) (members : List Member)
  | group (sign : Char) (choices : List (List Item))

def Member.holds (c : Char) : Member → Bool
  | range first last => first ≤ c && c ≤ last
  | named test => test c

def Item.holds (c : Char) : Item → Bool
  | char wanted => c = wanted
  | any => true
  | many => true
  | set negated members => members.any (Member.holds c) != negated
  | group .. => false

def className? (wide : Bool) (glyphs : List Glyph) : Option ((Char → Bool) × List Glyph) :=
  let name := (glyphs.takeWhile fun glyph => glyph.1.isAlpha).map Prod.fst
  match glyphs.drop name.length with
  | (':', _) :: (']', _) :: rest =>
    let meant := if wide then Text.wideClassNamed? (String.ofList name) else Text.classNamed? (String.ofList name)
    meant.map (·, rest)
  | _ => none

/-- The members of a set up to its closing bracket; the flag tells that a member has been read, so
that a bracket closes the set. -/
def members (wide : Bool) : Nat → Bool → List Glyph → Option (List Member × List Glyph)
  | 0, _, _ => none
  | _, _, [] => none
  | fuel + 1, started, (c, quoted) :: rest =>
    if c = ']' ∧ quoted = false ∧ started then some ([], rest)
    else
      match c, quoted, rest with
      | '[', false, (':', _) :: more =>
        match className? wide more with
        | some (test, after) =>
          (members wide fuel true after).map fun (found, final) => (.named test :: found, final)
        | none =>
          (members wide fuel true rest).map fun (found, final) => (.range '[' '[' :: found, final)
      | _, _, _ =>
        let (low, afterLow) : Char × List Glyph :=
          match c, quoted, rest with
          | '\\', false, (escaped, _) :: more => (escaped, more)
          | _, _, _ => (c, rest)
        match afterLow with
        | ('-', false) :: (high, quotedHigh) :: more =>
          if high = ']' ∧ quotedHigh = false then
            (members wide fuel true afterLow).map fun (found, final) => (.range low low :: found, final)
          else
            let (last, final) : Char × List Glyph :=
              match high, quotedHigh, more with
              | '\\', false, (escaped, _) :: others => (escaped, others)
              | _, _, _ => (high, more)
            (members wide fuel true final).map fun (found, final) => (.range low last :: found, final)
        | _ => (members wide fuel true afterLow).map fun (found, final) => (.range low low :: found, final)

/-- The choices of a group up to its closing bracket. The number counts the groups inside it that are open. -/
def choices : Nat → List Glyph → Option (List (List Glyph) × List Glyph)
  | _, [] => none
  | depth, glyph :: rest =>
    let adding := fun (depth : Nat) => (choices depth rest).map fun (found, after) =>
      match found with
      | first :: others => ((glyph :: first) :: others, after)
      | [] => ([[glyph]], after)
    match glyph, depth with
    | (')', false), 0 => some ([[]], rest)
    | (')', false), depth + 1 => adding depth
    | ('(', false), _ => adding (depth + 1)
    | ('|', false), 0 => (choices 0 rest).map fun (found, after) => ([] :: found, after)
    | _, _ => adding depth

def items (style : Style) : Nat → List Glyph → List Item
  | 0, _ => []
  | _, [] => []
  | fuel + 1, (c, quoted) :: rest =>
    let single := fun (_ : Unit) =>
      match c, quoted, rest with
      | '*', false, _ => .many :: items style fuel rest
      | '?', false, _ => .any :: items style fuel rest
      | '\\', false, (escaped, _) :: more => .char escaped :: items style fuel more
      | '[', false, _ =>
        let (negated, inside) : Bool × List Glyph :=
          match rest with
          | ('!', false) :: more => (true, more)
          | ('^', false) :: more => (true, more)
          | _ => (false, rest)
        match members style.wide (inside.length + 1) false inside with
        | some (found, after) => .set negated found :: items style fuel after
        | none => .char c :: items style fuel rest
      | _, _, _ => .char c :: items style fuel rest
    match style.grouped && !quoted && "?*+@!".toList.contains c, rest with
    | true, ('(', false) :: more =>
      match choices 0 more with
      | some (found, after) => .group c (found.map (items style fuel)) :: items style fuel after
      | none => single ()
    | _, _ => single ()

def caselessly (style : Style) (pattern : List Item) : List Item :=
  let lower := if style.wide then Text.Alphabet.lower else Char.toLower
  let upper := if style.wide then Text.Alphabet.upper else Char.toUpper
  pattern.map fun item =>
    match item with
    | .char c => .set false [.range (lower c) (lower c), .range (upper c) (upper c)]
    | .set negated found =>
      .set negated [.named fun c => found.any (Member.holds (lower c)) || found.any (Member.holds (upper c))]
    | other => other

def ofGlyphs (style : Style) (glyphs : List Glyph) : List Item :=
  let read := items style (glyphs.length + 1) glyphs
  if style.caseless then caselessly style read else read

def distinct (texts : List (List Char)) : List (List Char) :=
  texts.foldl (fun all text => if all.any fun other => other.length = text.length then all else all ++ [text]) []

/-- What may be left of a text behind a pattern. The number bounds the steps. -/
def rests : Nat → List Item → List Char → List (List Char)
  | 0, _, _ => []
  | _, [], text => [text]
  | fuel + 1, item :: others, text =>
    let ends := List.range (text.length + 1) |>.map fun size => text.drop size
    let onward := fun (left : List (List Char)) => distinct (left.flatMap (rests fuel others))
    match item with
    | .many => onward ends
    | .group sign found =>
      let once := fun (start : List Char) => distinct (found.flatMap fun choice => rests fuel choice start)
      let rec several : Nat → List (List Char) → List (List Char)
        | 0, reached => reached
        | rounds + 1, reached =>
          let next := distinct (reached ++ reached.flatMap once)
          if next.length = reached.length then reached else several rounds next
      match sign with
      | '@' => onward (once text)
      | '?' => onward (distinct (text :: once text))
      | '*' => onward (several (text.length + 1) [text])
      | '+' => onward (several (text.length + 1) (once text))
      | _ =>
        let fitted := (once text).map List.length
        onward (ends.filter fun left => !fitted.contains left.length)
    | single =>
      match text with
      | c :: after => if single.holds c then rests fuel others after else []
      | [] => []

/-- Where to go on when a text does not fit: after the last wildcard, with one character more for it. -/
abbrev Retreat := Option (List Item × List Char)

def retreated : Retreat → Option (List Item × List Char)
  | some (pattern, _ :: text) => some (pattern, text)
  | _ => none

def fits : Nat → List Item → List Char → Retreat → Bool
  | 0, _, _, _ => false
  | fuel + 1, pattern, text, retreat =>
    match pattern, text with
    | .many :: rest, _ => fits fuel rest text (some (rest, text))
    | [], [] => true
    | item :: rest, c :: after =>
      if item.holds c then fits fuel rest after retreat
      else
        match retreated retreat with
        | some (back, left) => fits fuel back left (some (back, left))
        | none => false
    | _, _ =>
      match retreated retreat with
      | some (back, left) => fits fuel back left (some (back, left))
      | none => false

def isGroup : Item → Bool
  | .group .. => true
  | _ => false

def fitsAll (pattern : List Item) (text : List Char) : Bool :=
  if pattern.any isGroup then (rests 10000 pattern text).any List.isEmpty
  else fits ((pattern.length + 2) * (text.length + 2) * 2) pattern text none

/-- The front part of a text that fits, as long or as short as possible, and what follows it. -/
def front? (pattern : List Item) (longest : Bool) (text : List Char) : Option (List Char × List Char) :=
  let sizes := List.range (text.length + 1)
  let found := (if longest then sizes.reverse else sizes).find? fun size => fitsAll pattern (text.take size)
  found.map fun size => (text.take size, text.drop size)

def back? (pattern : List Item) (longest : Bool) (text : List Char) : Option (List Char × List Char) :=
  let sizes := List.range (text.length + 1)
  let found := (if longest then sizes else sizes.reverse).find? fun size => fitsAll pattern (text.drop size)
  found.map fun size => (text.take size, text.drop size)

def trimmed (pattern : List Item) (atEnd longest : Bool) (text : List Char) : List Char :=
  if atEnd then ((back? pattern longest text).map Prod.fst).getD text
  else ((front? pattern longest text).map Prod.snd).getD text

def fitsPlain (pattern text : String) (caseless : Bool := false) : Bool :=
  fitsAll (ofGlyphs { caseless } (pattern.toList.map fun c => (c, false))) text.toList

end Pattern

end Assay.Script
