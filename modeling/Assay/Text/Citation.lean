import Assay.Text.CharClass
import Assay.Text.Octets

/-!
Texts that messages cite: between the quotes of the language, or in a form that a shell reads back. What cannot be
printed is written by its code.
-/

namespace Assay.Text.Citation

def octetEscape (c : Char) : List Char :=
  match [('\n', 'n'), ('\t', 't'), ('\r', 'r'), ('\x07', 'a'), ('\x08', 'b'), ('\x0c', 'f'),
      ('\x0b', 'v')].lookup c with
  | some letter => ['\\', letter]
  | none =>
    let digits := Nat.toDigits 8 c.toNat
    '\\' :: List.replicate (3 - digits.length) '0' ++ digits

def pieces (wide : Bool) (text : List Char) : List (Char × List Char × Bool) :=
  (if wide then Text.Characters.gather text else text).map fun c =>
    if c.toNat < 128 then (c, [c], 32 ≤ c.toNat && c.toNat ≠ 127)
    else (c, if wide then Text.Characters.octetsOf c else [c], wide && Text.Alphabet.isVisible c)

/-- The quotes: a pair of their own where characters may have several bytes, and apostrophes elsewhere. -/
def marks (wide : Bool) : List Char × List Char :=
  if wide then (['\xe2', '\x80', '\x98'], ['\xe2', '\x80', '\x99']) else (['\''], ['\''])

def cited (wide : Bool) (text : List Char) : List Char :=
  let closing := (marks wide).2
  (marks wide).1 ++ (pieces wide text).flatMap (fun (c, octets, visible) =>
    if c = '\\' ∨ octets = closing then '\\' :: octets
    else if visible then octets
    else octets.flatMap octetEscape) ++ closing

def marked (text : String) : String := "‘" ++ text ++ "’"

def settled (wide : Bool) : List Char → List Char
  | [] => []
  | c :: rest =>
    if c = '‘' then
      let inside := rest.takeWhile (· ≠ '’')
      cited wide inside ++ settled wide (rest.drop (inside.length + 1))
    else c :: settled wide rest
termination_by text => text.length
decreasing_by all_goals simp only [List.length_cons, List.length_drop]; omega

/-- Stretches of characters between single quotes, and of those that cannot be printed behind dollar signs. -/
def quotedParts : Nat → List (Char × List Char × Bool) → List Char
  | 0, _ => []
  | _, [] => []
  | fuel + 1, (c, octets, visible) :: rest =>
    if c = '\'' then ['\'', '\\', '\'', '\''] ++ quotedParts fuel rest
    else if visible then octets ++ quotedParts fuel rest
    else
      let more := rest.takeWhile fun piece => !piece.2.2
      let left := rest.drop more.length
      "'$'".toList ++ octets.flatMap octetEscape ++ more.flatMap (fun piece => piece.2.1.flatMap octetEscape)
        ++ (if left = [] then [] else "''".toList) ++ quotedParts fuel left

def isPlain (c : Char) : Bool := c.isAlphanum || "%+,-./:]_@".toList.contains c || c.toNat ≥ 128

/-- What may stand between double quotes: plain characters and blanks, and a mark of comments or of homes at the
front. -/
def fitsDouble (text : List (Char × List Char × Bool)) : Bool :=
  let fits := fun c : Char => isPlain c || c = ' ' || c = '\''
  text.all (fun piece => piece.2.2 && (fits piece.1 || piece.1 = '#' || piece.1 = '~'))
    && (text.drop 1).all fun piece => fits piece.1

def quoted (wide : Bool) (text : List Char) : List Char :=
  let all := pieces wide text
  if text.contains '\'' && fitsDouble all then ['"'] ++ text ++ ['"']
  else '\'' :: quotedParts (text.length + 1) all ++ ['\'']

/-- A shell reads the text back as it is. Some other characters may be counted among those that need quotes. -/
def standsAlone (wide : Bool) (others : List Char) (text : List Char) : Bool :=
  let all := pieces wide text
  text ≠ [] && text ≠ ['\x7b'] && text ≠ ['\x7d']
    && (all.all fun (c, _, visible) =>
      visible && (isPlain c || "\x7b\x7d#~".toList.contains c) && !others.contains c)
    && text.head? ≠ some '#' && text.head? ≠ some '~'

def readable (wide : Bool) (others : List Char) (text : List Char) : List Char :=
  if standsAlone wide others text then text else quoted wide text

end Assay.Text.Citation
