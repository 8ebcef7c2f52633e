import Assay.Script.Pattern
import Assay.Utility.Comparing.Columns
import Assay.Utility.Comparing.Groups
import Assay.Utility.Listing

/-!
Files and folders compared with one another.
-/

namespace Assay.Utility.Comparing

inductive Form
  | normal
  | unified
  | doubled
  | commands
  | forward
  | counts
  | columns (columns : Columns)
  | groups (groups : Groups)

structure Scheme where
  rule : LineRule := {}
  form : Form := .normal
  layout : Layout := {}
  brief : Bool := false
  tellsSame : Bool := false
  recursive : Bool := false
  asText : Bool := false
  dropsReturns : Bool := false
  fillsAbsent : Bool := false
  fillsFirst : Bool := false
  labels : List String := []
  switches : String := ""
  excluded : List String := []
  startsAt : Option String := none

namespace Scheme

def hidesSame (scheme : Scheme) : Bool :=
  match scheme.form with
  | .columns columns => columns.changesOnly
  | .groups groups => groups.hidesSame
  | _ => true

def needsEnds (scheme : Scheme) : Bool :=
  match scheme.form with
  | .commands | .forward => true
  | _ => false

def told (scheme : Scheme) (comparison : Comparison) : List Char :=
  let counting := comparison.counting
  let layout := scheme.layout
  match scheme.form with
  | .normal => counting.flatMap (comparison.normal layout)
  | .unified => (comparison.hunks layout).flatMap (comparison.united layout)
  | .doubled => (comparison.hunks layout).flatMap (comparison.doubled layout)
  | .commands => counting.reverse.flatMap (comparison.edited layout)
  | .forward => counting.flatMap (comparison.forward layout)
  | .counts => counting.flatMap (comparison.counted layout)
  | .columns columns => columns.texts comparison counting 0 0
  | .groups groups => groups.texts layout comparison counting 0 0

end Scheme

/-- A name in a heading: between quotes if it has blanks or characters that cannot be seen. -/
def headed (name : String) : String :=
  let special := fun c : Char => c < ' ' || c = '"' || c = '\\'
  if name.toList.any fun c => c = ' ' || special c then
    String.ofList ('"' :: (name.toList.flatMap shown) ++ ['"'])
  else name
where
  shown (c : Char) : List Char :=
    match c with
    | '"' => ['\\', '"']
    | '\\' => ['\\', '\\']
    | '\x07' => ['\\', 'a']
    | '\x08' => ['\\', 'b']
    | '\t' => ['\\', 't']
    | '\n' => ['\\', 'n']
    | '\x0b' => ['\\', 'v']
    | '\x0c' => ['\\', 'f']
    | '\r' => ['\\', 'r']
    | _ =>
      if c < ' ' then
        let digits := Nat.toDigits 8 c.toNat
        '\\' :: List.replicate (3 - digits.length) '0' ++ digits
      else [c]

inductive Side
  | nothing
  | lost (fault : FileFault)
  | input
  | present (location : Location) (entry : Entry)

namespace Side

def ofPath (file : String) : Utility Side := do
  if file = "-" then
    return if ((← ask .channels).lookup 0).isNone then .lost .badChannel else .input
  else
    match (← tree).locate (← folder) true (path file) with
    | .ok (.present location entry) => return .present location entry
    | .ok (.vacant ..) => return .lost .notFound
    | .error fault => return .lost fault

def isFolder : Side → Bool
  | present _ .folder => true
  | _ => false

def isRegular : Side → Bool
  | present _ (.file ..) => true
  | _ => false

def isNothing : Side → Bool
  | nothing => true
  | _ => false

def kind : Side → String
  | present _ entry => kindName entry
  | _ => "regular empty file"

def modified : Side → Utility Moment
  | present location entry => do return Moment.ofNanos ((← tree).traitsOf location entry).modified
  | nothing => return Moment.ofNanos 0
  | _ => Utility.present

def names : Side → Utility (List String)
  | present location .folder => do
    return (((← tree).children location).map fun child => Octets.ofText child.1).mergeSort fun a b =>
      (Ord.compare a b).isLE
  | _ => return []

end Side

def inside (folder name : String) : String := if folder.endsWith "/" then folder ++ name else folder ++ "/" ++ name

structure Pairing where
  one : String
  two : String
  nested : Bool

def headLine (scheme : Scheme) (mark name : String) (label : Option String) (side : Side) : Utility (List Char) := do
  match label with
  | some label => return scheme.layout.painted (some .header) (mark ++ " " ++ label).toList ++ ['\n']
  | none =>
    let form := match scheme.form with
      | .doubled => "%a %b %e %T %Y"
      | _ => "%Y-%m-%d %H:%M:%S.%N %z"
    let time ← dated (← side.modified) form
    return scheme.layout.painted (some .header) (mark ++ " " ++ headed name ++ "\t" ++ time).toList ++ ['\n']

def heading (scheme : Scheme) (pair : Pairing) (left right : Side) : Utility (List Char) := do
  let names := (headed ((scheme.labels[0]?).getD pair.one), headed ((scheme.labels[1]?).getD pair.two))
  let front := if pair.nested then "diff" ++ scheme.switches ++ " " ++ names.1 ++ " " ++ names.2 ++ "\n" else ""
  let (first, second) := match scheme.form with
    | .unified => ("---", "+++")
    | .doubled => ("***", "---")
    | _ => ("", "")
  if first = "" then return front.toList
  else
    return front.toList ++ (← headLine scheme first pair.one scheme.labels[0]? left)
      ++ (← headLine scheme second pair.two scheme.labels[1]? right)

def Scheme.prepared (scheme : Scheme) (text : List Char) : List Char :=
  if scheme.dropsReturns then withoutReturns text else text
where
  withoutReturns : List Char → List Char
    | '\r' :: '\n' :: rest => '\n' :: withoutReturns rest
    | c :: rest => c :: withoutReturns rest
    | [] => []

def frontSize : Nat := 4096

def compareTexts (scheme : Scheme) (pair : Pairing) (left right : Side) (one two : List Char) : Utility Nat := do
  let names := ((scheme.labels[0]?).getD pair.one, (scheme.labels[1]?).getD pair.two)
  let differ := fun (kind : String) => emitText (kind ++ names.1 ++ " and " ++ names.2 ++ " differ\n")
  let binary := fun (text : List Char) => (text.take frontSize).contains '\x00'
  if !scheme.asText && (binary one || binary two) then
    if one = two then return 0
    else
      differ (if scheme.brief then "Files " else "Binary files ")
      return 1
  else
    let (one, two) := (scheme.prepared one, scheme.prepared two)
    let lacks := fun (text : List Char) => scheme.needsEnds && text.getLast?.any fun c => decide (c ≠ '\n')
    let ended := fun (text : List Char) => if lacks text then text ++ ['\n'] else text
    let comparison := Comparison.ofLines scheme.rule scheme.layout.context (linesWithEnds (ended one))
      (linesWithEnds (ended two))
    let changed := !comparison.counting.isEmpty
    if scheme.brief then
      if changed then differ "Files "
    else if changed || !scheme.hidesSame then
      let body := scheme.told comparison
      let shows := match scheme.form with
        | .columns _ => true
        | _ => !body.isEmpty
      if shows then
        emit (← heading scheme pair left right)
        emit body
    let mut status := if changed then 1 else 0
    for (name, text) in [(names.1, one), (names.2, two)] do
      if lacks text then
        warn (name ++ ": No newline at end of file\n")
        status := 2
    return status

def contentOfSide (file : String) : Side → Utility (Except FileFault (List Char))
  | .nothing => return .ok []
  | _ => do return (← contentOf file).map Octets.chars

def Side.filled (fills : Bool) (side other : Side) : Side :=
  match side with
  | .lost .notFound | .lost .badChannel =>
    if !fills then side
    else match other with
      | .present .. | .input => .nothing
      | _ => side
  | _ => side

mutual

/-- Compares what stands at two paths; the number bounds how deep folders are looked into. The result is the status
that comes of it. -/
def compareSides (scheme : Scheme) : Nat → Pairing → Side → Side → Utility Nat
  | 0, _, _, _ => return 0
  | depth + 1, pair, left, right => do
    let tell := fun (file : String) (fault : FileFault) => warn (file ++ ": " ++ fault.message)
    match left, right with
    | .lost fault, .lost other =>
      tell pair.one fault
      tell pair.two other
      return 2
    | .lost fault, _ =>
      tell pair.one fault
      return 2
    | _, .lost fault =>
      tell pair.two fault
      return 2
    | _, _ =>
      -- What is missing is taken for a folder if the other one is.
      let leftFolder := left.isFolder || (left.isNothing && right.isFolder)
      let rightFolder := right.isFolder || (right.isNothing && left.isFolder)
      if !pair.nested && leftFolder != rightFolder then
        let (file, folder) := if leftFolder then (pair.two, pair.one) else (pair.one, pair.two)
        if file = "-" then fail "cannot compare '-' to a directory" 2
        let inner := inside folder (lastName file)
        let found ← Side.ofPath inner
        match found with
        | .lost fault =>
          tell inner fault
          return 2
        | _ =>
          if leftFolder then compareSides scheme depth { pair with one := inner } found right
          else compareSides scheme depth { pair with two := inner } left found
      else if leftFolder && rightFolder then
        if pair.nested && !scheme.recursive then
          emitText ("Common subdirectories: " ++ pair.one ++ " and " ++ pair.two ++ "\n")
          return 0
        else
          let chosen := fun (name : String) =>
            !(scheme.excluded.any fun form => Script.Pattern.fitsPlain form name)
              && (pair.nested || scheme.startsAt.all fun start => (Ord.compare start name).isLE)
          let lefts := (← left.names).filter chosen
          let rights := (← right.names).filter chosen
          let all := (lefts ++ rights.filter fun name => !lefts.contains name).mergeSort fun a b =>
            (Ord.compare a b).isLE
          compareNames scheme depth pair lefts rights all
      else
        let comparable := fun (side other : Side) => side.isRegular || (side.isNothing && other.isRegular)
        if leftFolder || rightFolder
            || (pair.nested && !(comparable left right && comparable right left)) then
          emitText ("File " ++ (scheme.labels[0]?).getD pair.one ++ " is a " ++ left.kind ++ " while file "
            ++ (scheme.labels[1]?).getD pair.two ++ " is a " ++ right.kind ++ "\n")
          return 1
        else
          let same : Bool := match left, right with
            | .present here _, .present there _ => here = there
            | .input, .input => true
            | _, _ => false
          let status ← if same && scheme.hidesSame then pure 0 else do
            match ← contentOfSide pair.one left with
            | .error fault =>
              tell pair.one fault
              pure 2
            | .ok one =>
              let other ← if same then pure (Except.ok one) else contentOfSide pair.two right
              match other with
              | .error fault =>
                tell pair.two fault
                pure 2
              | .ok two => compareTexts scheme pair left right one two
          if status = 0 && scheme.tellsSame then
            emitText ("Files " ++ (scheme.labels[0]?).getD pair.one ++ " and " ++ (scheme.labels[1]?).getD pair.two
              ++ " are identical\n")
          if status ≠ 0 then flush
          return status

def compareNames (scheme : Scheme) : Nat → Pairing → List String → List String → List String → Utility Nat
  | 0, _, _, _, _ => return 0
  | _, _, _, _, [] => return 0
  | depth + 1, pair, lefts, rights, name :: rest => do
    let (here, there) := (lefts.contains name, rights.contains name)
    let inner : Pairing := { one := inside pair.one name, two := inside pair.two name, nested := true }
    let fills := scheme.fillsAbsent || (scheme.fillsFirst && !here)
    let status ← if !(here && there) && !fills then do
        emitText ("Only in " ++ (if here then pair.one else pair.two) ++ ": " ++ name ++ "\n")
        flush
        pure 1
      else do
        let left ← if here then Side.ofPath inner.one else pure .nothing
        let right ← if there then Side.ofPath inner.two else pure .nothing
        compareSides scheme depth inner left right
    return max status (← compareNames scheme depth pair lefts rights rest)

end

def effort : Nat := 100000

def comparePaths (scheme : Scheme) (one two : String) : Utility Nat := do
  let left ← Side.ofPath one
  let right ← if two = one then pure left else Side.ofPath two
  let first := left.filled (scheme.fillsAbsent || scheme.fillsFirst) right
  let second := right.filled scheme.fillsAbsent left
  compareSides scheme effort { one, two, nested := false } first second

end Assay.Utility.Comparing
