import Assay.Script.Pattern
import Assay.Files.Tree
import Assay.Text.Octets

/-!
From expanded words to fields: splitting at separators, and names of files in place of patterns.
-/

namespace Assay.Script

inductive Atom
  /-- A character; one that came from an expansion outside quotes may split fields. -/
  | char (c : Char) (quoted splits : Bool)
  | held
  | gap
  | border
deriving DecidableEq

def glyphs (atoms : List Atom) : List Glyph :=
  atoms.filterMap fun atom =>
    match atom with
    | .char c quoted _ => some (c, quoted)
    | _ => none

def plain (atoms : List Atom) : List Char := (glyphs atoms).map Prod.fst

namespace Fields

inductive Passed
  | nothing
  | blanks
  | mark
deriving DecidableEq

structure Splitting where
  fields : List (List Glyph) := []
  current : List Glyph := []
  present : Bool := false
  passed : Passed := .nothing

namespace Splitting

def close (state : Splitting) (passed : Passed) : Splitting :=
  { fields := state.current.reverse :: state.fields, current := [], present := false, passed }

def finish (state : Splitting) : Splitting :=
  if state.present then state.close .nothing else { state with current := [], passed := .nothing }

end Splitting

def isBlank (c : Char) : Bool := c = ' ' || c = '\t' || c = '\n'

def step (separators : List Char) (state : Splitting) (atom : Atom) : Splitting :=
  match atom with
  | .held => { state with present := true, passed := .nothing }
  | .gap => state.finish
  | .border => { state with passed := .nothing }
  | .char c quoted splits =>
    if splits && separators.contains c then
      if isBlank c then
        if state.present then state.close .blanks else state
      else if state.passed = .blanks then { state with passed := .mark }
      else state.close .mark
    else { state with current := (c, quoted) :: state.current, present := true, passed := .nothing }

def split (separators : List Char) (atoms : List Atom) : List (List Glyph) :=
  (atoms.foldl (step separators) {}).finish.fields.reverse

structure Globbing where
  style : Pattern.Style := {}
  hidden : Bool := false
  vanishes : Bool := false
  insists : Bool := false
  skipsDots : Bool := false
  deep : Bool := false

def isPattern (grouped : Bool) : List Glyph → Bool
  | ('\\', false) :: _ :: rest => isPattern grouped rest
  | (c, false) :: rest =>
    c = '*' || c = '?' || c = '['
      || (grouped && "+@!".toList.contains c && rest.head? = some ('(', false)) || isPattern grouped rest
  | (_, true) :: rest => isPattern grouped rest
  | [] => false

def parts : Nat → List Glyph → List (List Glyph × String)
  | 0, _ => []
  | _, [] => []
  | fuel + 1, glyphs =>
    let name := glyphs.takeWhile (·.1 ≠ '/')
    let rest := glyphs.drop name.length
    let slashes := rest.takeWhile (·.1 = '/')
    (name, String.ofList (slashes.map Prod.fst)) :: parts fuel (rest.drop slashes.length)

def literalText : List Glyph → List Char
  | ('\\', false) :: (c, _) :: rest => c :: literalText rest
  | (c, _) :: rest => c :: literalText rest
  | [] => []

def namesFitting (globbing : Globbing) (tree : FileTree) (folder : Location) (above : String)
    (pattern : List Glyph) : List String :=
  let place := if above = "" then some folder else
    match tree.target? folder ⟨Octets.toText above⟩ with
    | some (location, .folder) => some location
    | _ => none
  match place with
  | none => []
  | some location =>
    let dotted := pattern.head?.map Prod.fst = some '.'
      || (pattern.take 2).map Prod.fst = ['\\', '.']
    let items := Pattern.ofGlyphs globbing.style
      (if globbing.style.wide then Text.Characters.gatherTagged pattern else pattern)
    let names := (tree.children location).map fun child => Octets.ofText child.1
    let all := if dotted && !globbing.skipsDots then "." :: ".." :: names else names
    all.filter fun name =>
      (dotted || globbing.hidden || name.toList.head? ≠ some '.') && Pattern.fitsAll items (if globbing.style.wide then Text.Characters.gather name.toList else name.toList)

/-- The paths of what is below a folder, each one with whether it is a folder itself. Hidden names are left out;
the number bounds the depth. -/
def below (globbing : Globbing) (tree : FileTree) (folder : Location) : Nat → String → List (String × Bool)
  | 0, _ => []
  | depth + 1, above =>
    let names := (namesFitting globbing tree folder above [('*', false)]).mergeSort fun left right =>
      (compare left right).isLE
    names.flatMap fun name =>
      match tree.locate folder false ⟨Octets.toText (above ++ name)⟩ with
      | .ok (.present _ .folder) => (above ++ name, true) :: below globbing tree folder depth (above ++ name ++ "/")
      | _ => [(above ++ name, false)]

def deepest : Nat := 200

def paths (globbing : Globbing) (tree : FileTree) (folder : Location) : List (List Glyph × String) → String → Bool → List String
  | [], above, sought =>
    let present := match tree.locate folder false ⟨Octets.toText above⟩ with
      | .ok (.present ..) => true
      | _ => false
    if sought && !present then [] else [above]
  | (name, slashes) :: rest, above, sought =>
    if globbing.deep && name = [('*', false), ('*', false)] then
      let found := below globbing tree folder deepest above
      if slashes = "" then (if above = "" then [] else [above]) ++ found.map Prod.fst
      else
        let folders := (found.filter Prod.snd).map Prod.fst
        let places := (if above = "" && rest.isEmpty then [] else [above]) ++ folders.map (· ++ slashes)
        places.flatMap fun place => paths globbing tree folder rest place sought
    else if isPattern globbing.style.grouped name then
      (namesFitting globbing tree folder above name).flatMap fun found =>
        paths globbing tree folder rest (above ++ found ++ slashes) (slashes ≠ "" || sought)
    else paths globbing tree folder rest (above ++ String.ofList (literalText name) ++ slashes) true

def named (globbing : Globbing) (tree : FileTree) (folder : Location) (field : List Glyph) : Except String (List String) :=
  let itself := String.ofList (field.map Prod.fst)
  if isPattern globbing.style.grouped field then
    let found := paths globbing tree folder (parts (field.length + 1) field) "" false
    if !found.isEmpty then .ok (found.mergeSort fun left right => (compare left right).isLE)
    else if globbing.insists then .error itself
    else .ok (if globbing.vanishes then [] else [itself])
  else .ok [itself]

end Fields

end Assay.Script
