import Assay.Script.Pattern
import Assay.Text.Format
import Assay.Text.Version
import Assay.Utility.Placing

/-!
Telling which files there are, and what is known about them.
-/

namespace Assay.Utility

inductive Clock
  | modified
  | accessed
  | changed
deriving DecidableEq

structure Listing where
  /-- Names that begin with a point are shown; the two of every folder only with `a`. -/
  almostAll : Bool := false
  all : Bool := false
  /-- Names of these forms are left out; those of the first list only where not all names are shown. -/
  hidden : List String := []
  ignored : List String := []
  plainFolders : Bool := false
  recursive : Bool := false
  long : Bool := false
  marks : Bool := false
  slashes : Bool := false
  reversed : Bool := false
  foldersFirst : Bool := false
  order : String := ""
  clock : Clock := .modified
  /-- The form of times; otherwise one of two that depend on how long ago they are. -/
  form : Option String := none
  commas : Bool := false
  quotes : Bool := false
  escapes : Bool := false
  numbers : Bool := false
  sizes : Bool := false
  human : Option Nat := none
  noOwner : Bool := false
  noGroup : Bool := false
  ownerNumbers : Bool := false
  columns : Option Bool := none
  width : Nat := 80
  follows : Bool := false
  ending : String := "\n"

structure Item where
  name : String
  location : Location
  entry : Entry
  traits : Traits

def itemAt (tree : FileTree) (name : String) (location : Location) (entry : Entry) : Item :=
  { name, location, entry, traits := tree.traitsOf location entry }

def entrySize : Entry → Nat
  | .file _ content _ => content.size
  | .folder => 4096
  | .link way => way.text.utf8ByteSize
  | .device _ => 0

def entryBlocks : Entry → Nat
  | .file _ content _ => (content.size + 4095) / 4096 * 4
  | .folder => 4
  | _ => 0

def kindLetter : Entry → Char
  | .file .. => '-'
  | .folder => 'd'
  | .link _ => 'l'
  | .device (.pipe _) => 'p'
  | .device _ => 'c'

def modeText (entry : Entry) (mode : Nat) : String := String.ofList (kindLetter entry :: Mode.letters mode)

def rawMode (entry : Entry) (mode : Nat) : Nat :=
  mode + (match entry with
    | .file .. => 0o100000
    | .folder => 0o040000
    | .link _ => 0o120000
    | .device (.pipe _) => 0o010000
    | .device _ => 0o020000)

def linkCount (tree : FileTree) (location : Location) : Entry → Nat
  | .file serial _ _ =>
    (tree.entries.filter fun item => match item.2 with
      | .file other _ _ => other = serial
      | _ => false).length
  | .folder => 2 + ((tree.children location).filter fun item => match item.2 with
      | .folder => true
      | _ => false).length
  | _ => 1

def nodeNumber (tree : FileTree) (location : Location) : Entry → Nat
  | .file serial _ _ => 1000 + serial
  | _ => 500000 + (tree.entries.findIdx fun item => item.1 = location)

/-- A size in units of which each is some times the one before, rounded up; one digit stands behind a point where
the number is small. -/
def humanSize (base size : Nat) : String :=
  let rec go (unit : Nat) : List Char → String
    | [] => toString size
    | letter :: rest =>
      let tenths := (size * 10 + unit - 1) / unit
      if tenths < 100 then toString (tenths / 10) ++ "." ++ toString (tenths % 10) ++ String.ofList [letter]
      else
        let whole := (size + unit - 1) / unit
        if whole < base then toString whole ++ String.ofList [letter]
        else go (unit * base) rest
  if size < base then toString size
  else go base (if base = 1024 then "KMGTPE".toList else "kMGTPE".toList)

/-- The seconds of half a year; what is older is told with its year. -/
def halfYear : Int := 15778476

namespace Listing

def timeOf (listing : Listing) (item : Item) : Int :=
  match listing.clock with
  | .modified => item.traits.modified
  | .accessed => item.traits.accessed
  | .changed => item.traits.changed

def mark (listing : Listing) (item : Item) : String :=
  match item.entry with
  | .folder => if listing.marks || listing.slashes then "/" else ""
  | .file .. => if listing.marks && Mode.runs item.traits.mode then "*" else ""
  | .link _ => if listing.marks && !listing.long then "@" else ""
  | .device (.pipe _) => if listing.marks then "|" else ""
  | _ => ""

def written (listing : Listing) (name : String) : String :=
  let escaped := fun c : Char =>
    if c = '\\' then ['\\', '\\']
    else if listing.quotes && c = '"' then ['\\', '"']
    else if !listing.quotes && c = ' ' then ['\\', ' ']
    else if c.toNat < 32 || c.toNat = 127 then Text.Citation.octetEscape c
    else [c]
  if listing.quotes then "\"" ++ String.ofList (name.toList.flatMap escaped) ++ "\""
  else if listing.escapes then String.ofList (name.toList.flatMap escaped)
  else name

def shows (listing : Listing) (fits : String → String → Bool) (name : String) : Bool :=
  let everything := listing.all || listing.almostAll
  (everything || name.toList.head? ≠ some '.')
    && !(listing.ignored.any fun form => fits form name)
    && (everything || !(listing.hidden.any fun form => fits form name))

def precedes (listing : Listing) (a b : Item) : Bool :=
  let byName := fun (left right : Item) => left.name ≤ right.name
  let ending := fun name : String =>
    let last := (name.toList.reverse.takeWhile (· ≠ '.')).reverse
    if last.length = name.length then [] else last
  let forward := fun (left right : Item) => match listing.order with
    | "S" => entrySize left.entry > entrySize right.entry
      || (entrySize left.entry = entrySize right.entry && byName left right)
    | "t" => listing.timeOf left > listing.timeOf right
      || (listing.timeOf left = listing.timeOf right && byName left right)
    | "X" => ending left.name < ending right.name || (ending left.name = ending right.name && byName left right)
    | "v" => Text.Version.compare left.name.toList right.name.toList ≠ .gt
    | _ => byName left right
  let isFolder := fun item : Item => match item.entry with
    | .folder => true
    | _ => false
  if listing.foldersFirst && isFolder a ≠ isFolder b then isFolder a
  else if listing.reversed then forward b a else forward a b

def sorted (listing : Listing) (items : List Item) : List Item :=
  if listing.order = "U" then items else items.mergeSort listing.precedes

def sizeText (listing : Listing) (size : Nat) : String :=
  match listing.human with
  | some base => humanSize base size
  | none => toString size

def blocksText (listing : Listing) (entry : Entry) : String :=
  match listing.human with
  | some base => humanSize base (entryBlocks entry * 1024)
  | none => toString (entryBlocks entry)

def aligned (rows : List (List String)) : List String :=
  let widths := rows.foldl (fun (widest : List Nat) row =>
    (List.range (max widest.length row.length)).map fun place =>
      max (widest.getD place 0) ((row[place]?).map String.length |>.getD 0)) []
  rows.map fun row => " ".intercalate (((List.range row.length).zip row).map fun (place, text) =>
    let padding := String.ofList (List.replicate (widths.getD place 0 - text.length) ' ')
    if text = "root" then text ++ padding else padding ++ text)

def boundless : Nat := 1000000

/-- The gap between two places of a line, with tabs where they fit; the number bounds its width. -/
def gap : Nat → Nat → Nat → String
  | 0, _, _ => ""
  | fuel + 1, start, stop =>
    if stop ≤ start then ""
    else if (start + 1) / 8 < stop / 8 then "\t" ++ gap fuel (start + 8 - start % 8) stop
    else " " ++ gap fuel (start + 1) stop

def columned (width : Nat) (across : Bool) (names : List (String × Nat)) : List String :=
  let count := names.length
  let rowsFor := fun columns : Nat => (count + columns - 1) / columns
  let placeOf := fun (columns index : Nat) =>
    if across then index % columns else index / rowsFor columns
  let widthsFor := fun columns : Nat =>
    ((List.range count).zip names).foldl (fun (widths : List Nat) (index, item) =>
      let place := placeOf columns index
      let room := item.2 + (if place + 1 = columns then 0 else 2)
      widths.set place (max (widths.getD place 0) room)) (List.replicate columns 3)
  let fits := fun columns : Nat => (widthsFor columns).foldl (· + ·) 0 < width
  let columns := (((List.range (min count (width / 3) + 1)).reverse).find? fun columns => 1 ≤ columns && fits columns).getD 1
  let widths := widthsFor columns
  let rows := rowsFor columns
  (List.range rows).map fun row =>
    let cells := (List.range columns).filterMap fun column =>
      let index := if across then row * columns + column else column * rows + row
      (names[index]?).map fun item => (item, widths.getD column 0)
    let (text, _, _) := cells.foldl (fun (text, place, start) (item, room) =>
      (text ++ gap (start + 8) place start ++ item.1, start + item.2, start + room)) ("", 0, 0)
    text

def commaLines (width : Nat) (names : List (String × Nat)) : List String :=
  let (lines, last, _) := names.foldl (fun ((lines : List String), (line : String), (room : Nat)) (name, size) =>
    if line = "" then (lines, name, size)
    else if room + size + 2 < width then (lines, line ++ ", " ++ name, room + size + 2)
    else (lines ++ [line ++ ","], name, size)) ([], "", 0)
  if last = "" then lines else lines ++ [last]

end Listing

namespace Listing

def longRow (listing : Listing) (tree : FileTree) (item : Item) : List String :=
  let owner := if listing.ownerNumbers then "0" else "root"
  (if listing.numbers then [toString (nodeNumber tree item.location item.entry)] else [])
    ++ (if listing.sizes then [listing.blocksText item.entry] else [])
    ++ [modeText item.entry item.traits.mode, toString (linkCount tree item.location item.entry)]
    ++ (if listing.noOwner then [] else [owner]) ++ (if listing.noGroup then [] else [owner])
    ++ [match item.entry with
      | .device kind => (match kind with
        | .pipe _ => "0"
        | .null => "1, 3"
        | .zero => "1, 5"
        | .full => "1, 7"
        | _ => "5, 0")
      | entry => listing.sizeText (entrySize entry)]

def timeText (listing : Listing) (time : Int) : Utility String := do
  let moment := Moment.ofNanos time
  let now ← present
  let recent := now.seconds - halfYear < moment.seconds && moment.total ≤ now.total
  match listing.form with
  | some form =>
    match (form.splitOn "\n") with
    | [old, fresh] => dated moment (if recent then fresh else old)
    | _ => dated moment form
  | none => dated moment (if recent then "%b %e %H:%M" else "%b %e  %Y")

def lines (listing : Listing) (tree : FileTree) (items : List Item) : Utility (List String) := do
  let names := items.map fun item =>
    listing.written item.name ++ (match listing.long, item.entry with
      | true, .link way => " -> " ++ Octets.ofText way.text
      | _, _ => "") ++ listing.mark item
  if listing.long then
    let times ← items.mapM fun item => timeText listing (listing.timeOf item)
    return ((aligned (items.map (listing.longRow tree))).zip (times.zip names)).map fun (front, time, name) =>
      front ++ " " ++ time ++ " " ++ name
  else
    let fronts := items.map fun item =>
      (if listing.numbers then [toString (nodeNumber tree item.location item.entry)] else [])
        ++ (if listing.sizes then [listing.blocksText item.entry] else [])
    let widest := fun place : Nat => ((fronts.map fun front => ((front[place]?).getD "").length).foldl max 0)
    let all := (fronts.zip names).map fun (front, name) =>
      String.join (((List.range front.length).zip front).map fun (place, text) =>
        if listing.commas then text ++ " "
        else String.ofList (List.replicate (widest place - text.length) ' ') ++ text ++ " ") ++ name
    let measured := all.map fun text => (text, (Text.Characters.gather text.toList).length)
    if listing.commas then return commaLines listing.width measured
    else
      match listing.columns with
      | some across =>
        if measured.isEmpty then return []
        else if boundless ≤ listing.width then return ["  ".intercalate all]
        else return columned listing.width across measured
      | none => return all

def content (listing : Listing) (fits : String → String → Bool) (tree : FileTree) (location : Location) : List Item :=
  let found := tree.entries.filterMap fun (place, entry) =>
    (FileTree.childName? location place).bind fun name =>
      let octets := Octets.ofText name
      if listing.shows fits octets then some (itemAt tree octets place entry) else none
  let dots : List Item := if listing.all && tree.isFolderAt location then
      [itemAt tree "." location .folder, itemAt tree ".." location.dropLast .folder]
    else []
  listing.sorted (dots ++ found)

end Listing

/-- Lists a folder, and those in it if that is wanted; the number bounds the depth. -/
def listFolder (listing : Listing) (fits : String → String → Bool) :
    Nat → Bool → Bool → String → Location → Utility Unit
  | 0, _, _, _, _ => return
  | depth + 1, headed, first, name, location => do
    let tree ← tree
    let items := listing.content fits tree location
    if headed then emitText ((if first then "" else "\n") ++ name ++ ":\n")
    if listing.long || listing.sizes then
      let total := (items.map fun item => entryBlocks item.entry).foldl (· + ·) 0
      emitText ("total " ++ (match listing.human with
        | some base => humanSize base (total * 1024)
        | none => toString total) ++ listing.ending)
    for line in ← listing.lines tree items do emitText (line ++ listing.ending)
    if listing.recursive then
      for item in items do
        match item.entry with
        | .folder =>
          if item.name ≠ "." && item.name ≠ ".." then
            listFolder listing fits depth true false (below name item.name) item.location
        | _ => pure ()

def timeForm (style : String) : Utility (Option String) := do
  match style.toList with
  | '+' :: form => return some (String.ofList form)
  | _ =>
    match style with
    | "locale" => return none
    | _ =>
      let plain := if "posix-".isPrefixOf style then "locale" else style
      let forms : List (List String × Option String) :=
        [(["full-iso"], some "%Y-%m-%d %H:%M:%S.%N %z"), (["long-iso"], some "%Y-%m-%d %H:%M"),
         (["iso"], some "%Y-%m-%d \n%m-%d %H:%M"), (["locale"], none)]
      match (forms.find? fun item => item.1 = [plain]).orElse fun _ =>
          (forms.filter fun item => item.1.any plain.isPrefixOf).head? with
      | some (_, form) => return form
      | none =>
        warn ("invalid argument " ++ cited style ++ " for " ++ cited "time style")
        say ("Valid arguments are:\n  - [posix-]full-iso\n  - [posix-]long-iso\n  - [posix-]iso\n  - [posix-]locale\n"
          ++ "  - +FORMAT (e.g., +%H:%M) for a 'date'-style format\nTry '" ++ (← name) ++ " --help' for more information.\n")
        throw 2

def ls : Program := program do
  losing (Loss.usual 2)
  let found ← options
    { flags := "aAbBcCdfFgGhHiklLmnNopqQrRsStuUvxX1ZD", valued := "IwT", failure := 2,
      lenient := ["color", "classify", "hyperlink"],
      words := [("all", "a", false), ("almost-all", "A", false), ("directory", "d", false),
                ("classify", "F", false), ("recursive", "R", false), ("reverse", "r", false),
                ("color", "color", false), ("group-directories-first", "z", false), ("inode", "i", false),
                ("human-readable", "h", false), ("si", "si", false), ("no-group", "G", false), ("dereference", "L", false),
                ("size", "s", false), ("quote-name", "Q", false), ("format", "format", true), ("sort", "sort", true),
                ("time", "time", true), ("time-style", "style", true), ("indicator-style", "indicator", true),
                ("hide", "hide", true), ("ignore", "I", true), ("ignore-backups", "B", false), ("escape", "b", false),
                ("literal", "N", false), ("file-type", "p", false), ("full-time", "full", false), ("width", "w", true),
                ("numeric-uid-gid", "n", false), ("author", "author", false), ("block-size", "block", true),
                ("hide-control-chars", "q", false), ("show-control-chars", "N", false), ("zero", "zero", false),
                ("dereference-command-line", "H", false), ("kibibytes", "k", false), ("context", "Z", false),
                ("hyperlink", "hyper", false), ("quoting-style", "quoting", true), ("tabsize", "T", true)] }
  let sorted ← (found.values "sort").mapM (choice "--sort"
    [(["none"], "U"), (["time"], "t"), (["size"], "S"), (["extension"], "X"), (["version"], "v"), (["width"], "W")] · 2)
  let timed ← (found.values "time").mapM (choice "--time"
    [(["atime", "access", "use"], Clock.accessed), (["ctime", "status"], .changed), (["mtime", "modification"], .modified),
     (["birth", "creation"], .changed)] · 2)
  let formats ← (found.values "format").mapM (choice "--format"
    [(["verbose", "long"], "l"), (["commas"], "m"), (["horizontal", "across"], "x"), (["vertical"], "C"),
     (["single-column"], "1")] · 2)
  let sorting := (found.last? ["S", "t", "U", "X", "f", "v"]).getD ""
  let width ← match found.value? "w" with
    | none => pure 80
    | some text =>
      match natural? text with
      | some 0 => pure Listing.boundless
      | some number => pure number
      | none => fail ("invalid line width: " ++ cited text) 2
  let layout := (found.last? ["l", "g", "n", "o", "m", "x", "C", "1", "full"]).orElse fun _ => formats.getLast?
  let long := layout.any ["l", "g", "n", "o", "full"].contains
  let clock := timed.getLast?.getD (match found.last? ["c", "u"] with
    | some "c" => .changed
    | some _ => .accessed
    | none => .modified)
  let order := sorted.getLast?.getD (if sorting = "f" then "U" else sorting)
  let form ← match found.value? "style" with
    | some style => timeForm style
    | none => pure (if found.has "full" then some "%Y-%m-%d %H:%M:%S.%N %z" else none)
  let listing : Listing :=
    { almostAll := found.has "A", all := found.has "a" || found.has "f"
      hidden := found.values "hide"
      ignored := found.values "I" ++ (if found.has "B" then ["*~"] else [])
      plainFolders := found.has "d", recursive := found.has "R", long, clock, form
      marks := found.has "F", slashes := found.has "p", reversed := found.has "r", foldersFirst := found.has "z"
      order := if order = "" && !long && clock ≠ .modified then "t" else order
      commas := layout = some "m", quotes := found.has "Q", escapes := found.has "b"
      numbers := found.has "i", sizes := found.has "s"
      human := if found.has "h" then some 1024 else if found.has "si" then some 1000 else none
      noOwner := found.has "g", noGroup := found.has "o" || found.has "G", follows := found.has "L", ownerNumbers := found.has "n"
      columns := if layout = some "C" then some false else if layout = some "x" then some true else none
      width, ending := if found.has "zero" then "\x00" else "\n" }
  let fits := fun form name : String => Script.Pattern.fitsPlain form name
  let operands := if found.operands.isEmpty then ["."] else found.operands
  let mut files : List Item := []
  let mut folders : List Item := []
  for file in operands do
    let direct := (listing.long || listing.marks) && !listing.follows && !found.has "H" || listing.plainFolders
    let result ← match ← presentAt (!direct || file.toList.getLast? = some '/') file with
      | .error fault =>
        if fault = .notFound then presentAt false file else pure (.error fault)
      | found => pure found
    match result with
    | .error fault => complain ("cannot access " ++ quoted file ++ ": " ++ fault.message) 2
    | .ok (location, entry) =>
      let item := itemAt (← tree) file location entry
      match entry with
      | .folder => if listing.plainFolders then files := files ++ [item] else folders := folders ++ [item]
      | _ => files := files ++ [item]
  let tree ← tree
  for line in ← listing.lines tree (listing.sorted files) do emitText (line ++ listing.ending)
  let headed := 1 < operands.length || listing.recursive
  let mut first := files.isEmpty
  for item in listing.sorted folders do
    listFolder listing fits (tree.entries.length + 2) headed first item.name item.location
    first := false

def plainly (file : String) : Utility (Except FileFault String) := do
  let here ← folder
  if file = "" || file.toList.head? ≠ some '/' && FileTree.isLost here then return .error .notFound
  let start := if file.toList.head? = some '/' then [] else here
  let names := (path file).pieces.foldl (fun (here : Location) name =>
    if name = "" ∨ name = "." then here else if name = ".." then here.dropLast else here ++ [name]) start
  return .ok (Octets.ofText ("/" ++ "/".intercalate names))

/-- Where a path leads. With `loose` names that are missing are kept, with `strict` all have to be
there, and otherwise all but the last one. -/
def canonical (loose strict : Bool) (file : String) : Utility (Except FileFault String) := do
  let shown := fun location : Location => Octets.ofText ("/" ++ "/".intercalate location)
  if file.toList.head? ≠ some '/' && FileTree.isLost (← folder) then return .error .notFound
  match ← spotOf true file with
  | .ok (.present location _) => return .ok (shown location)
  | .ok (.vacant location _) => return if strict then .error .notFound else .ok (shown location)
  | .error fault =>
    if loose then plainly file else return .error fault

def readlink : Program := program do
  let found ← options
    { flags := "femnqsvz",
      words := [("canonicalize", "f", false), ("canonicalize-existing", "e", false),
                ("canonicalize-missing", "m", false), ("no-newline", "n", false), ("zero", "z", false),
                ("verbose", "v", false)] }
  requireOperands found
  let ending := if found.has "z" then "\x00"
    else if found.has "n" && found.operands.length = 1 then "" else "\n"
  for file in found.operands do
    let result ← if found.has "f" || found.has "e" || found.has "m" then
        canonical (found.has "m") (found.has "e") file
      else
        match ← presentAt false file with
        | .ok (_, .link way) => pure (.ok (Octets.ofText way.text))
        | .ok _ => pure (.error .invalid)
        | .error fault => pure (.error fault)
    match result with
    | .ok text => emitText (text ++ ending)
    | .error fault =>
      if found.has "v" then complain (named file ++ ": " ++ fault.message)
      else modify fun console => { console with status := 1 }

def realpath : Program := program do
  let found ← options
    { flags := "emqsLPz",
      words := [("canonicalize-existing", "e", false), ("canonicalize-missing", "m", false),
                ("no-symlinks", "s", false), ("strip", "s", false), ("quiet", "q", false), ("zero", "z", false),
                ("relative-to", "t", true), ("relative-base", "b", true)] }
  requireOperands found
  let settled := fun (file : String) =>
    if found.has "s" then plainly file else canonical (found.has "m") (found.has "e") file
  let names := fun text : String => (path text).pieces.filter (· ≠ "")
  let placeOf := fun (key : String) => do
    match found.value? key with
    | none => pure none
    | some file =>
      match ← settled file with
      | .error fault => fail (named file ++ ": " ++ fault.message)
      | .ok text =>
        if found.has "e" && !((← tree).target? (← folder) (path text)).any fun item => item.2 matches .folder then
          fail (named file ++ ": " ++ FileFault.notAFolder.message)
        pure (some (names text))
  let start ← placeOf "t"
  let base ← placeOf "b"
  let (start, base) := match start, base with
    | none, some base => (some base, some base)
    | some start, some base => if base.isPrefixOf start then (some start, some base) else (none, none)
    | start, none => (start, none)
  for file in found.operands do
    match ← settled file with
    | .ok text =>
      let target := names text
      let shown := match start with
        | some start => if base.any fun base => !base.isPrefixOf target then text else relativeWay start target
        | none => text
      emitText (shown ++ (if found.has "z" then "\x00" else "\n"))
    | .error fault =>
      if found.has "q" then modify fun console => { console with status := 1 }
      else complain (named file ++ ": " ++ fault.message)

def kindName : Entry → String
  | .file _ content _ => if content.isEmpty then "regular empty file" else "regular file"
  | .folder => "directory"
  | .link _ => "symbolic link"
  | .device (.pipe _) => "fifo"
  | .device _ => "character special file"

inductive Fact
  | word (text : String)
  | number (base : Nat) (value : Nat)
  /-- Seconds since the beginning of 1970, with parts of one second where they are asked for. -/
  | time (nanos : Int)

def deviceNumbers : Entry → Nat × Nat
  | .device .null => (1, 3)
  | .device .zero => (1, 5)
  | .device .full => (1, 7)
  | .device .terminal => (5, 0)
  | _ => (0, 0)

def factOf (tree : FileTree) (quotes : Bool) (file : String) (location : Location) (entry : Entry) (c : Char) :
    Utility (Option Fact) := do
  let traits := tree.traitsOf location entry
  let shown := fun name : String => if quotes then quoted name else name
  let dated := fun time : Int => dated (Moment.ofNanos time) "%Y-%m-%d %H:%M:%S.%N %z"
  match c with
  | 'n' => return some (.word file)
  | 'N' => return some (.word (match entry with
    | .link way => shown file ++ " -> " ++ shown (Octets.ofText way.text)
    | _ => shown file))
  | 's' => return some (.number 10 (entrySize entry))
  | 'F' => return some (.word (kindName entry))
  | 'a' => return some (.number 8 traits.mode)
  | 'A' => return some (.word (modeText entry traits.mode))
  | 'f' => return some (.number 16 (rawMode entry traits.mode))
  | 'U' | 'G' => return some (.word "root")
  | 'u' | 'g' => return some (.number 10 0)
  | 'h' => return some (.number 10 (linkCount tree location entry))
  | 'b' => return some (.number 10 (entryBlocks entry * 2))
  | 'B' => return some (.number 10 512)
  | 'o' => return some (.number 10 4096)
  | 'i' => return some (.number 10 (nodeNumber tree location entry))
  | 'd' => return some (.number 10 65024)
  | 'D' => return some (.number 16 65024)
  | 't' => return some (.number 16 (deviceNumbers entry).1)
  | 'T' => return some (.number 16 (deviceNumbers entry).2)
  | 'm' => return some (.word "/")
  | 'X' => return some (.time traits.accessed)
  | 'Y' => return some (.time traits.modified)
  | 'Z' => return some (.time traits.changed)
  | 'x' => return some (.word (← dated traits.accessed))
  | 'y' => return some (.word (← dated traits.modified))
  | 'z' => return some (.word (← dated traits.changed))
  | 'w' => return some (.word "-")
  | 'W' => return some (.number 10 0)
  | '%' => return some (.word "%")
  | _ => return none

def Fact.written (layout : Text.Layout) (fact : Fact) : List Char :=
  match fact with
  | .word text => layout.text text.toList
  | .number base value => layout.natural (if base = 8 then 'o' else if base = 16 then 'x' else 'u') value
  | .time nanos =>
    let seconds := Int.fdiv nanos 1000000000
    match layout.precision with
    | none => { layout with precision := none }.integer seconds
    | some places =>
      let plain := (toString (Int.fmod nanos 1000000000).toNat).toList
      let all := List.replicate (9 - plain.length) '0' ++ plain
      let fraction := all.take places ++ List.replicate (places - 9) '0'
      let text := (toString seconds).toList ++ (if places = 0 then [] else '.' :: fraction)
      { layout with precision := none }.text text

/-- A format with facts in it; escapes count if that is wanted. The number bounds its length. -/
def factsIn (facts : Char → Utility (Option Fact)) (escapes : Bool) : Nat → List Char → Utility (List Char)
  | 0, _ => return []
  | _, [] => return []
  | fuel + 1, '%' :: rest => do
    let flags := rest.takeWhile fun c => "#-+ 0'I".toList.contains c
    let behind := rest.drop flags.length
    let digits := behind.takeWhile Char.isDigit
    let (precision, after) : Option Nat × List Char := match behind.drop digits.length with
      | '.' :: more =>
        let places := more.takeWhile Char.isDigit
        (some (if places = [] then 9 else Text.valueIn 10 places), more.drop places.length)
      | more => (none, more)
    let layout : Text.Layout :=
      { (Text.Layout.withFlags flags).withWidth (Text.valueIn 10 digits) with precision }
    match after with
    | [] => return '%' :: rest
    | c :: more =>
      match ← facts c with
      | some fact => return fact.written layout ++ (← factsIn facts escapes fuel more)
      | none => return '?' :: (← factsIn facts escapes fuel more)
  | fuel + 1, '\\' :: rest => do
    if !escapes then return '\\' :: (← factsIn facts escapes fuel rest)
    else
      match rest with
      | [] =>
        warn "warning: backslash at end of format"
        return ['\\']
      | c :: more =>
        let known := [('n', '\n'), ('t', '\t'), ('\\', '\\'), ('"', '"'), ('a', '\x07'), ('b', '\x08'), ('e', '\x1b'),
          ('f', '\x0c'), ('r', '\r'), ('v', '\x0b')]
        match known.lookup c with
        | some mark => return mark :: (← factsIn facts escapes fuel more)
        | none =>
          let octal := (rest.take 3).takeWhile Mode.isOctal
          let hex := (more.take 2).takeWhile (Text.isDigitIn 16)
          if octal ≠ [] then
            return Char.ofNat (Text.valueIn 8 octal % 256) :: (← factsIn facts escapes fuel (rest.drop octal.length))
          else if c = 'x' ∧ hex ≠ [] then
            return Char.ofNat (Text.valueIn 16 hex) :: (← factsIn facts escapes fuel (more.drop hex.length))
          else
            warn ("warning: unrecognized escape '\\" ++ String.ofList [c] ++ "'")
            return c :: (← factsIn facts escapes fuel more)
  | fuel + 1, c :: rest => return c :: (← factsIn facts escapes fuel rest)

def usualFacts (entry : Entry) : String :=
  let device := match entry with
    | .device (.pipe _) => "\n"
    | .device _ => " Device type: %t,%T\n"
    | _ => "\n"
  "  File: %N\n  Size: %-10s\tBlocks: %-10b IO Block: %-6o %F\nDevice: 254,0\tInode: %-10i  Links: %-5h" ++ device
    ++ "Access: (%04a/%10.10A)  Uid: (%5u/%8U)   Gid: (%5g/%8G)\nAccess: %x\nModify: %y\nChange: %z\n Birth: %w\n"

def stat : Program := program do
  let found ← options
    { flags := "Lft", valued := "c",
      words := [("dereference", "L", false), ("format", "c", true), ("printf", "p", true), ("terse", "t", false),
        ("file-system", "f", false), ("cached", "cached", true)] }
  requireOperands found
  for file in found.operands do
    match ← presentAt (found.has "L") file with
    | .error fault => complain ("cannot statx " ++ quoted file ++ ": " ++ fault.message)
    | .ok (location, entry) =>
      let tell := fun (form : String) (escapes : Bool) (ending : String) => do
        let quotes := 1 < (form.splitOn "%N").length && (found.has "c" || found.has "p")
        let facts := factOf (← tree) quotes file location entry
        emit ((← factsIn facts escapes (form.length + 1) form.toList) ++ ending.toList)
      match found.last? ["c", "p"] with
      | some "p" => tell ((found.value? "p").getD "") true ""
      | some _ => tell ((found.value? "c").getD "") false "\n"
      | none =>
        if found.has "t" then tell "%n %s %b %f %u %g %D %i %h %t %T %X %Y %Z %W %o" false "\n"
        else tell (usualFacts entry) false ""

structure NameCheck where
  basic : Bool := false
  extra : Bool := false

def isPortable (c : Char) : Bool := c.isAlphanum || "._-/".toList.contains c

def NameCheck.fault? (check : NameCheck) (there : Bool) (wide : Bool) (file : String) : Option String :=
  let chars := file.toList
  let names := chars.splitOn '/' |>.filter (· ≠ [])
  let hyphen := check.extra && names.any fun name => name.head? = some '-'
  let limit := if check.basic then 256 else 4096
  if hyphen then some ("leading '-' in a component of file name " ++ quoted file)
  else if (check.basic || check.extra) && chars = [] then some "empty file name"
  else if !check.basic && names.any fun name => decide (255 < name.length) then
    some (named file ++ ": File name too long")
  else
    match if check.basic then chars.dropWhile isPortable else [] with
    | c :: rest =>
      let all := Text.Characters.gather (c :: rest)
      let first := if wide then (all.head?.map Text.Characters.octetsOf).getD [c] else [c]
      some ("nonportable character " ++ cited (String.ofList first) ++ " in file name " ++ quoted file)
    | [] =>
      if (check.basic || !there) && limit ≤ chars.length then
        some ("limit " ++ toString (limit - 1) ++ " exceeded by length " ++ toString chars.length ++ " of file name "
          ++ quoted file)
      else
        (names.find? fun name => decide (14 < name.length) && check.basic).map fun name =>
          "limit 14" ++ " exceeded by length " ++ toString name.length
            ++ " of file name component " ++ cited (String.ofList name)

def pathchk : Program := program do
  let found ← options { flags := "pP", words := [("portability", "portability", false)] }
  requireOperands found
  let both := found.has "portability"
  let check : NameCheck := { basic := both || found.has "p", extra := both || found.has "P" }
  for file in found.operands do
    let result ← presentAt false file
    let there := result matches .ok _
    match check.fault? there (← spellsWide) file with
    | some message => complain message
    | none =>
      match result with
      | .ok _ => pure ()
      | .error fault =>
        if !check.basic && (fault ≠ .notFound || file = "") then complain (named file ++ ": " ++ fault.message)

end Assay.Utility
