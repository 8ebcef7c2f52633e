import Assay.Calendar.Form
import Assay.Calendar.Telling
import Assay.Utility.Basic
import Assay.Utility.Plain

/-!
Making folders, links and files, taking them away, and changing what is known about them.
-/

namespace Assay.Utility

def present : Utility Moment := do return Moment.ofMicros (Host.firstSecond * 1000000 + (← ask .clock))

def zone : Utility Calendar.Zone := do
  return Calendar.Zone.ofSetting ((← get).call.environment.lookup "TZ")

def momentOf? (text : String) : Utility (Option Moment) := do
  return Calendar.Telling.moment? (← present) (← zone) text

def dated (moment : Moment) (form : String) : Utility String := do
  return String.ofList ((Calendar.Local.ofMoment (← zone) moment).written form true)

def spotOf (follow : Bool) (file : String) : Utility (Except FileFault Spot) := do
  return (← tree).locate (← folder) follow (path file)

def presentAt (follow : Bool) (file : String) : Utility (Except FileFault (Location × Entry)) := do
  match ← spotOf follow file with
  | .ok (.present location entry) => return .ok (location, entry)
  | .ok (.vacant ..) => return .error .notFound
  | .error fault => return .error fault

def isFolderAt (file : String) : Utility Bool := do
  match ← presentAt true file with
  | .ok (_, .folder) => return true
  | _ => return false

def below (folder name : String) : String :=
  if folder.toList.getLast? = some '/' then folder ++ name else folder ++ "/" ++ name

def change (operation : FileTree → Except FileFault FileTree) : Utility (Except FileFault Unit) :=
  ask (.change operation)

def putAt (location : Location) (entry : Entry) : Utility Unit := do
  let _ ← change fun tree => .ok (tree.put location entry)

def setMode (location : Location) (entry : Entry) (mode : Nat) : Utility Unit := do
  let _ ← change fun tree => .ok (tree.setMode location entry mode)

structure Permitting where
  steps : List Mode.Step
  likeOption : Bool := false
  recursive : Bool := false
  told : Option String := none
  silent : Bool := false

def modeShown (mode : Nat) : String :=
  String.ofList (Mode.digits 4 mode) ++ " (" ++ String.ofList (Mode.letters mode) ++ ")"

/-- Changes the mode of one entry, and of all below it if that is wanted; the number bounds the depth. -/
def permitOne (permitting : Permitting) : Nat → Bool → String → Utility Unit
  | 0, _, _ => return
  | depth + 1, named, file => do
    match ← presentAt named file with
    | .error fault =>
      let dangling := fault = .notFound && (← presentAt false file).toOption.isSome
      if permitting.silent then modify fun console => { console with status := 1 }
      else if dangling then complain ("cannot operate on dangling symlink " ++ quoted file)
      else complain ("cannot access " ++ quoted file ++ ": " ++ fault.message)
      if permitting.told = some "v" then emitText (quoted file ++ " could not be accessed\n")
    | .ok (_, .link _) =>
      if permitting.told = some "v" then
        emitText ("neither symbolic link " ++ quoted file ++ " nor referent has been changed\n")
    | .ok (location, entry) =>
      let isFolder := entry matches .folder
      let old := ((← tree).traitsOf location entry).mode
      let mode := Mode.changed permitting.steps isFolder (← ask .mask) old
      setMode location entry mode
      let tells := permitting.told = some "v" || (permitting.told = some "c" && mode ≠ old)
      if tells then
        emitText ("mode of " ++ quoted file ++ (if mode = old then " retained as " ++ modeShown mode
          else " changed from " ++ modeShown old ++ " to " ++ modeShown mode) ++ "\n")
      if permitting.likeOption then
        let meant := Mode.changed permitting.steps isFolder 0 old
        if Mode.has mode (Mode.without Mode.all meant) then
          flush
          complain (Utility.named file ++ ": new permissions are " ++ String.ofList (Mode.letters mode) ++ ", not "
            ++ String.ofList (Mode.letters meant))
      if permitting.recursive && isFolder then
        for (name, _) in (← tree).children location do permitOne permitting depth false (below file name)

def chmod : Program := program do
  let given ← arguments
  let isMode := fun text : String => match text.toList with
    | '-' :: rest => rest ≠ [] && rest.all fun c => "rwxXstugoa,+=01234567".toList.contains c
    | _ => false
  let modes := given.takeWhile (· ≠ "--")
  let minus := modes.find? isMode
  let found ← scanArguments
    { flags := "Rvcf", words := [("recursive", "R", false), ("verbose", "v", false), ("quiet", "f", false),
        ("silent", "f", false), ("changes", "c", false), ("reference", "reference", true),
        ("no-preserve-root", "no-preserve-root", false), ("preserve-root", "preserve-root", false)] }
    (given.length + 1) (given.filter fun text => some text ≠ minus)
  let reference := found.value? "reference"
  let operands := (if reference.isSome then [] else minus.toList) ++ found.operands
  match reference, operands with
  | _, [] => misuse "missing operand"
  | none, [mode] =>
    if minus.isSome then misuse "missing operand" else misuse ("missing operand after " ++ cited mode)
  | _, first :: others =>
    let steps ← match reference with
      | some file =>
        match ← presentAt true file with
        | .ok (location, entry) =>
          let mode := ((← tree).traitsOf location entry).mode
          pure [{ sign := '=', amount := .bits mode, affected := Mode.all, mentioned := Mode.all : Mode.Step }]
        | .error fault => fail ("failed to get attributes of " ++ quoted file ++ ": " ++ fault.message)
      | none =>
        match Mode.change? first with
        | some steps => pure steps
        | none => misuse ("invalid mode: " ++ cited first)
    let permitting : Permitting :=
      { steps, likeOption := minus.isSome && reference.isNone, recursive := found.has "R",
        told := found.last? ["v", "c"], silent := found.has "f" }
    for file in if reference.isSome then operands else others do
      permitOne permitting ((← tree).entries.length + 2) true file

def isKnownOwner (text : String) : Bool :=
  text = "" || (natural? text).isSome || ["root", "daemon", "bin", "sys", "nobody", "nogroup"].contains text

def giveAway (groupsOnly : Bool) : Utility Unit := do
  let found ← options
    { flags := "RvcfhHLP", words := [("recursive", "R", false), ("verbose", "v", false), ("changes", "c", false),
        ("silent", "f", false), ("quiet", "f", false), ("no-dereference", "h", false), ("reference", "reference", true),
        ("from", "from", true)] }
  let reference := found.value? "reference"
  match reference, found.operands with
  | _, [] => misuse "missing operand"
  | none, [owner] => misuse ("missing operand after " ++ cited owner)
  | _, first :: others =>
    if reference.isNone then
      let parts := (first.toList.splitOn ':').map String.ofList
      if groupsOnly then
        if !isKnownOwner first then fail ("invalid group: " ++ cited first)
      else
        if !isKnownOwner (parts.headD "") then fail ("invalid user: " ++ cited first)
        if !isKnownOwner (parts.getD 1 "") then fail ("invalid group: " ++ cited first)
    for file in if reference.isSome then found.operands else others do
      match ← presentAt (!found.has "h") file with
      | .ok _ => pure ()
      | .error fault =>
        if found.has "f" then modify fun console => { console with status := 1 }
        else complain ("cannot access " ++ quoted file ++ ": " ++ fault.message)

def chown : Program := program (giveAway false)

def chgrp : Program := program (giveAway true)

/-- Makes the missing folders on a path, from the first one on. The text begins what is told about each of them. -/
def makeAll (told : Option String) (done : String) : List String → Utility Unit
  | [] => return
  | name :: rest => do
    let here := if done = "" then name else below done name
    let base ← folder
    match ← change fun tree => tree.createFolder base (path here) with
    | .ok () =>
      match told with
      | some words => emitText (words ++ " directory " ++ quoted here ++ "\n")
      | none => pure ()
      makeAll told here rest
    | .error .alreadyExists =>
      if ← isFolderAt here then makeAll told here rest
      else
        let fault : FileFault := if rest.isEmpty then .alreadyExists else .notAFolder
        complain ("cannot create directory " ++ quoted here ++ ": " ++ fault.message)
    | .error fault => complain ("cannot create directory " ++ quoted here ++ ": " ++ fault.message)

def stepsOf (file : String) : List String :=
  let names := (file.toList.splitOn '/').map String.ofList |>.filter (· ≠ "")
  match names with
  | first :: rest => if file.toList.head? = some '/' then ("/" ++ first) :: rest else first :: rest
  | [] => []

def mkdir : Program := program do
  let found ← options
    { flags := "pvZ", valued := "m",
      words := [("parents", "p", false), ("verbose", "v", false), ("mode", "m", true)] }
  requireOperands found
  let steps ← match found.value? "m" with
    | none => pure none
    | some mode =>
      match Mode.change? mode with
      | some steps => pure (some steps)
      | none => fail ("invalid mode " ++ cited mode)
  let base ← folder
  for file in found.operands do
    let before := (← presentAt true file).toOption.isSome
    if found.has "p" && file ≠ "" then
      makeAll (if found.has "v" then some "mkdir: created" else none) "" (stepsOf file)
    else
      match ← change fun tree => tree.createFolder base (path file) with
      | .ok () => if found.has "v" then emitText ("mkdir: created directory " ++ quoted file ++ "\n")
      | .error fault => complain ("cannot create directory " ++ quoted file ++ ": " ++ fault.message)
    match steps, before, ← presentAt true file with
    | some changes, false, .ok (location, entry) =>
      setMode location entry (Mode.changed changes true (← ask .mask) 0o777)
    | _, _, _ => pure ()

def mkfifo : Program := program do
  let found ← options { flags := "Z", valued := "m", words := [("mode", "m", true), ("context", "Z", false)] }
  requireOperands found
  let steps ← match found.value? "m" with
    | none => pure none
    | some mode =>
      match Mode.change? mode with
      | some steps => pure (some steps)
      | none => fail "invalid mode"
  for file in found.operands do
    let refused := fun fault : FileFault => complain ("cannot create fifo " ++ quoted file ++ ": " ++ fault.message)
    match ← spotOf false file with
    | .ok (.vacant location false) =>
      let _ ← change fun tree =>
        .ok { tree.put location (.device (.pipe tree.nextSerial)) with nextSerial := tree.nextSerial + 1 }
      match steps, ← presentAt false file with
      | some changes, .ok (place, entry) => setMode place entry (Mode.changed changes false (← ask .mask) 0o666)
      | _, _ => pure ()
    | .ok (.vacant _ true) => refused .notFound
    | .ok (.present ..) => refused .alreadyExists
    | .error fault => refused fault

def removeFolder (file : String) : Utility (Except FileFault Unit) := do
  match ← presentAt false file with
  | .error fault => return .error fault
  | .ok (location, .folder) =>
    let behindLink := match ← presentAt false (String.ofList (withoutEnd file.toList)) with
      | .ok (_, .link _) => true
      | _ => false
    if behindLink then return .error .notAFolder
    else if lastName file = "." then return .error .invalid
    else if lastName file = ".." then return .error .notEmpty
    else if ((← tree).listing location).isEmpty then
      let _ ← change fun tree => .ok (tree.removeBelow location)
      return .ok ()
    else return .error .notEmpty
  | .ok _ => return .error .notAFolder

/-- Takes a folder away, then those above it that a path names; the number bounds them. -/
def removeUp (verbose : Bool) : Nat → Bool → String → Utility Unit
  | 0, _, _ => return
  | depth + 1, first, file => do
    if verbose then emitText ("rmdir: removing directory, " ++ quoted file ++ "\n")
    match ← removeFolder file with
    | .error fault =>
      complain ((if first then "failed to remove " else "failed to remove directory ") ++ quoted file ++ ": " ++ fault.message)
    | .ok () =>
      let parent := folderName file
      if parent ≠ "." && parent ≠ "/" then removeUp verbose depth false parent

def rmdir : Program := program do
  let found ← options
    { flags := "pv", words := [("parents", "p", false), ("verbose", "v", false), ("ignore-fail-on-non-empty", "i", false)] }
  requireOperands found
  for file in found.operands do
    if found.has "p" then removeUp (found.has "v") file.length true (String.ofList (withoutEnd file.toList))
    else
      if found.has "v" then emitText ("rmdir: removing directory, " ++ quoted file ++ "\n")
      match ← removeFolder file with
      | .ok () => pure ()
      | .error .notEmpty =>
        if !found.has "i" then complain ("failed to remove " ++ quoted file ++ ": " ++ FileFault.notEmpty.message)
      | .error fault => complain ("failed to remove " ++ quoted file ++ ": " ++ fault.message)

/-- Asks on the channel of errors; only an answer that begins with a `y` agrees. -/
def agreed (question : String) : Utility Bool := do
  flush
  say question
  let rec go : Nat → List Char → Utility (List Char)
    | 0, line => return line
    | fuel + 1, line => do
      match ← ask (.read 0 1) with
      | .ok piece =>
        match Octets.chars piece with
        | ['\n'] | [] => return line
        | more => go fuel (line ++ more)
      | .error _ => return line
  match ← go 10000 [] with
  | c :: _ => return c = 'y' || c = 'Y'
  | [] => return false

structure Removal where
  recursive : Bool := false
  forced : Bool := false
  asks : Bool := false
  empties : Bool := false
  verbose : Bool := false

def kindOf : Entry → String
  | .file _ content _ => if content.isEmpty then "regular empty file" else "regular file"
  | .folder => "directory"
  | .link _ => "symbolic link"
  | .device (.pipe _) => "fifo"
  | .device _ => "character special file"

/-- Takes one entry away, with all below it if that is wanted; the number bounds the depth. The result
tells that it is gone. -/
def removeOne (removal : Removal) : Nat → String → Utility Bool
  | 0, _ => return false
  | depth + 1, file => do
    let refused := fun fault : FileFault => do
      complain ("cannot remove " ++ quoted file ++ ": " ++ fault.message)
      return false
    match ← presentAt false file with
    | .error fault =>
      if removal.forced && (fault = .notFound || fault = .notAFolder) then return true else refused fault
    | .ok (location, .folder) =>
      let children := (← tree).children location
      if removal.recursive then
        let enters ← if removal.asks && !children.isEmpty then
            agreed ("rm: descend into directory " ++ quoted file ++ "? ")
          else pure true
        if !enters then return false
        let mut all := true
        for (name, _) in children do
          if !(← removeOne removal depth (below file name)) then all := false
        let _ ← change fun tree => .ok (tree.withoutStrays location)
        if !all then return false
        let leaves ← if removal.asks then agreed ("rm: remove directory " ++ quoted file ++ "? ") else pure true
        if !leaves then return false
        match ← removeFolder file with
        | .ok () =>
          if removal.verbose then emitText ("removed directory " ++ quoted file ++ "\n")
          return true
        | .error fault => refused fault
      else if removal.empties then
        if !((← tree).listing location).isEmpty then return ← refused .notEmpty
        match ← removeFolder file with
        | .ok () =>
          if removal.verbose then emitText ("removed directory " ++ quoted file ++ "\n")
          return true
        | .error fault => refused fault
      else refused .isAFolder
    | .ok (_, entry) =>
      let leaves ← if removal.asks then agreed ("rm: remove " ++ kindOf entry ++ " " ++ quoted file ++ "? ")
        else pure true
      if !leaves then return false
      let base ← folder
      match ← change fun tree => tree.remove base (path file) with
      | .ok () =>
        if removal.verbose then emitText ("removed " ++ quoted file ++ "\n")
        return true
      | .error fault => refused fault

def endsInDots (file : String) : Bool :=
  let name := String.ofList (((withoutEnd file.toList).reverse.takeWhile (· ≠ '/')).reverse)
  name = "." || name = ".."

def rm : Program := program do
  let found ← options
    { flags := "rRfidIv",
      words := [("recursive", "r", false), ("force", "f", false), ("dir", "d", false), ("verbose", "v", false),
                ("interactive", "i", false), ("no-preserve-root", "p", false), ("preserve-root", "P", false),
                ("one-file-system", "o", false)]
      lenient := ["interactive"] }
  let removal : Removal :=
    { recursive := found.has "r" || found.has "R"
      forced := found.last? ["f", "i"] = some "f"
      asks := found.last? ["f", "i"] = some "i"
      empties := found.has "d"
      verbose := found.has "v" }
  if found.operands.isEmpty && !found.has "f" then misuse "missing operand"
  for file in found.operands do
    if removal.recursive && endsInDots file then
      complain ("refusing to remove '.' or '..' directory: skipping " ++ quoted file)
    else if removal.recursive && file ≠ "" && withoutEnd file.toList = [] then
      complain ("it is dangerous to operate recursively on '/'")
      say "rm: use --no-preserve-root to override this failsafe\n"
    else
      let _ ← removeOne removal ((← tree).entries.length + 2) file

def unlink : Program := program do
  let found ← options {}
  requireOperands found
  match found.operands with
  | [file] =>
    let base ← folder
    match ← change fun tree => tree.remove base (path file) with
    | .ok () => pure ()
    | .error fault => fail ("cannot unlink " ++ quoted file ++ ": " ++ fault.message)
  | _ => misuse ("extra operand " ++ cited (found.operands.getD 1 ""))

/-- The moment that digits spell: a month, a day, an hour and a minute, with a year in front and seconds behind a
point if they are there. -/
def stampOf? (now : Moment) (zone : Calendar.Zone) (text : String) : Option Moment := do
  let digits := text.toList.takeWhile Char.isDigit
  let rest := text.toList.drop digits.length
  let second ← match rest with
    | [] => some 0
    | ['.', tens, ones] => if tens.isDigit ∧ ones.isDigit then some (Text.valueIn 10 [tens, ones]) else none
    | _ => none
  let thisYear := (Calendar.Wall.ofSeconds (now.seconds + (zone.settingAt now.seconds).ahead)).year
  let front := digits.length - 8
  let year : Int := match front with
    | 0 => thisYear
    | 2 =>
      let short := Text.valueIn 10 (digits.take 2)
      if short < 69 then 2000 + short else 1900 + short
    | _ => Text.valueIn 10 (digits.take 4)
  if ¬ [8, 10, 12].contains digits.length then none
  let pair := fun place : Nat => Text.valueIn 10 ((digits.drop (front + place)).take 2)
  if pair 4 < 24 ∧ pair 6 < 60 ∧ second ≤ 60 then
    let shown ← Calendar.Telling.shown? year (pair 0) (pair 2) (pair 4) (pair 6) 0
    return { seconds := (← zone.secondsOf? shown) + second }
  else none

def touch : Program := program do
  let found ← options
    { flags := "acfmh", valued := "drt",
      words := [("no-create", "c", false), ("date", "d", true), ("reference", "r", true), ("time", "time", true),
                ("no-dereference", "h", false)] }
  let named ← (found.values "time").mapM
    (choice "--time" [(["atime", "access", "use"], "a"), (["mtime", "modify"], "m")])
  let accessed := found.has "a" || named.contains "a"
  let modified := found.has "m" || named.contains "m"
  let both := !accessed && !modified
  if found.has "t" && (found.has "d" || found.has "r") then misuse "cannot specify times from more than one source"
  let follows := !found.has "h"
  let now ← present
  let base : Option (Moment × Moment) ← match found.value? "r" with
    | none => pure none
    | some file =>
      match ← presentAt follows file with
      | .ok (location, entry) =>
        let traits := (← tree).traitsOf location entry
        pure (some (Moment.ofNanos traits.accessed, Moment.ofNanos traits.modified))
      | .error fault => fail ("failed to get attributes of " ++ quoted file ++ ": " ++ fault.message)
  let zone ← zone
  let told := fun (start : Moment) (text : String) => do
    match Calendar.Telling.moment? start zone text with
    | some moment => return moment
    | none => fail ("invalid date format " ++ cited text)
  let times : Option (Moment × Moment) ← match found.value? "d", found.value? "t" with
    | some text, _ =>
      let (first, second) := base.getD (now, now)
      pure (some (← told first text, ← told second text))
    | none, some text =>
      match stampOf? now zone text with
      | some moment => pure (some (moment, moment))
      | none => fail ("invalid date format " ++ cited text)
    | none, none => pure base
  if found.operands.isEmpty then misuse "missing file operand"
  for file in found.operands do
    let dated := fun (location : Location) (entry : Entry) => do
      let _ ← change fun tree =>
        let old := tree.traitsOf location entry
        let (first, second) : Int × Int := match times with
          | some (first, second) => (first.total, second.total)
          | none => (tree.now, tree.now)
        .ok (tree.setTraits location entry
          { old with
            accessed := if accessed || both then first else old.accessed
            modified := if modified || both then second else old.modified
            changed := tree.now })
    match ← spotOf follows file with
    | .ok (.present location entry) => dated location entry
    | .ok (.vacant location false) =>
      if found.has "h" then
        if !found.has "c" then complain ("setting times of " ++ quoted file ++ ": No such file or directory")
      else if !found.has "c" then
        let _ ← change fun tree => .ok (tree.putFile location .empty false)
        match ← presentAt true file with
        | .ok (place, entry) => dated place entry
        | .error _ => pure ()
    | .ok (.vacant _ true) =>
      if !found.has "c" then complain ("setting times of " ++ quoted file ++ ": No such file or directory")
    | .error fault =>
      if !(found.has "c" && fault = .notFound) then
        complain ("cannot touch " ++ quoted file ++ ": " ++ fault.message)

structure Linking where
  symbolic : Bool := false
  forced : Bool := false
  verbose : Bool := false
  relative : Bool := false

def relativeWay (start target : Location) : String :=
  let shared := ((start.zip target).takeWhile fun pair => pair.1 = pair.2).length
  let names := List.replicate (start.length - shared) ".." ++ target.drop shared
  if names.isEmpty then "." else "/".intercalate names

def linkOne (linking : Linking) (source target : String) : Utility Unit := do
  let kind := if linking.symbolic then "symbolic" else "hard"
  let refused := fun fault : FileFault =>
    complain ("failed to create " ++ kind ++ " link " ++ quoted target
      ++ (if linking.symbolic || fault ≠ .notFound then "" else " => " ++ quoted source) ++ ": " ++ fault.message)
  let spot ← spotOf false target
  let entry : Except FileFault Entry ← if linking.symbolic then
      if linking.relative then
        let base := match spot with
          | .ok (.present location _) | .ok (.vacant location _) => location.dropLast
          | .error _ => []
        let meant := match (← tree).locate (← folder) true (path source) with
          | .ok (.present location _) | .ok (.vacant location _) => location
          | .error _ => (path source).pieces
        pure (.ok (.link ⟨relativeWay base meant⟩))
      else pure (.ok (.link (path source)))
    else
      match ← presentAt false source with
      | .ok (_, entry) => pure (.ok entry)
      | .error fault => pure (.error fault)
  match entry with
  | .error fault => complain ("failed to access " ++ quoted source ++ ": " ++ fault.message)
  | .ok made =>
    match linking.symbolic, made with
    | false, .folder => complain (named source ++ ": hard link not allowed for directory")
    | _, _ =>
      if linking.symbolic && source = "" then refused .notFound
      else
        match spot with
        | .error fault => refused fault
        | .ok (.present location _) =>
          let own := match ← presentAt false source with
            | .ok (other, _) => other = location
            | .error _ => false
          if linking.forced then
            if own && (!linking.symbolic) then
              complain (quoted source ++ " and " ++ quoted target ++ " are the same file")
            else
              putAt location made
              tell target
          else refused .alreadyExists
        | .ok (.vacant _ true) => refused .notFound
        | .ok (.vacant location false) =>
          putAt location made
          tell target
where
  tell (shown : String) : Utility Unit := do
    if linking.verbose then
      emitText (quoted shown ++ (if linking.symbolic then " -> " else " => ") ++ quoted source ++ "\n")

def ln : Program := program do
  let found ← options
    { flags := "sfnvrTLPiFd", valued := "t",
      words := [("symbolic", "s", false), ("force", "f", false), ("no-dereference", "n", false),
                ("verbose", "v", false), ("relative", "r", false), ("no-target-directory", "T", false),
                ("target-directory", "t", true)] }
  let linking : Linking :=
    { symbolic := found.has "s", forced := found.has "f", verbose := found.has "v", relative := found.has "r" }
  let isTargetFolder := fun file : String => do
    if found.has "T" then return false
    else if found.has "n" then
      match ← presentAt false file with
      | .ok (_, .folder) => return true
      | _ => return false
    else isFolderAt file
  match found.value? "t", found.operands with
  | _, [] => misuse "missing file operand"
  | some target, sources =>
    for source in sources do linkOne linking source (below target (lastName source))
  | none, [source] =>
    if found.has "T" then misuse ("missing destination file operand after " ++ quoted source)
    else linkOne linking source (lastName source)
  | none, [source, target] =>
    if ← isTargetFolder target then linkOne linking source (below target (lastName source))
    else linkOne linking source target
  | none, several =>
    let target := several.getLast?.getD ""
    match ← presentAt true target with
    | .ok (_, .folder) =>
      for source in several.dropLast do linkOne linking source (below target (lastName source))
    | .ok _ => fail ("target " ++ quoted target ++ ": Not a directory")
    | .error fault => fail ("target " ++ quoted target ++ ": " ++ fault.message)

def link : Program := program do
  let found ← options {}
  match found.operands with
  | [source, target] =>
    match ← presentAt false source, ← spotOf false target with
    | .ok (_, entry), .ok (.vacant location false) => putAt location entry
    | .error fault, _ | _, .error fault =>
      fail ("cannot create link " ++ quoted target ++ " to " ++ quoted source ++ ": " ++ fault.message)
    | _, _ => fail ("cannot create link " ++ quoted target ++ " to " ++ quoted source ++ ": File exists")
  | [] => misuse "missing operand"
  | [one] => misuse ("missing operand after " ++ cited one)
  | _ => misuse ("extra operand " ++ cited (found.operands.getD 2 ""))

def freshLetters (size seed : Nat) : List Char :=
  let letters := "kQ7mZ2xVb9TdRw4HnYc8LfJ6sPgA3eWu5KiDqXoM".toList
  ((List.range size).foldl (fun (found : List Char × Nat) _ =>
    let next := (found.2 * 1103515245 + 12345) % 2147483648
    ((letters[(next / 65536) % letters.length]?).getD 'x' :: found.1, next)) ([], seed + 7919)).1

def mktemp : Program := program do
  let found ← options
    { flags := "dqut", valued := "p", lenient := ["tmpdir"],
      words := [("directory", "d", false), ("quiet", "q", false), ("dry-run", "u", false), ("tmpdir", "p", false),
                ("suffix", "s", true)] }
  let template := found.operands.headD "tmp.XXXXXXXXXX"
  let reversed := template.toList.reverse
  let ending := reversed.takeWhile (· ≠ 'X')
  let marks := (reversed.drop ending.length).takeWhile (· = 'X')
  if 1 < found.operands.length then misuse "too many templates"
  if marks.length < 3 then fail ("too few X's in template " ++ cited template)
  let base := (found.value? "p").filter (· ≠ "")
  let standard := ((← get).call.environment.lookup "TMPDIR").getD "/tmp"
  let inFolder := found.operands.isEmpty || found.has "p" || found.has "t"
  let place := if inFolder then below (base.getD standard) template else template
  let seed := (← tree).nextSerial * 31 + (← ask .number) + (← ask .clock)
  let fresh := freshLetters marks.length seed
  let name := String.ofList (place.toList.take (place.length - ending.length - marks.length))
    ++ String.ofList fresh ++ String.ofList ending.reverse ++ ((found.value? "s").getD "")
  let what := if found.has "d" then "directory" else "file"
  match ← spotOf false name with
  | .ok (.vacant location _) =>
    if found.has "u" then pure ()
    else if found.has "d" then putAt location .folder
    else
      let _ ← change fun tree => .ok (tree.putFile location .empty false)
    emitText (name ++ "\n")
  | .ok (.present ..) => fail ("failed to create " ++ what ++ " via template " ++ cited place ++ ": File exists")
  | .error fault =>
    if found.has "u" then emitText (name ++ "\n")
    else fail ("failed to create " ++ what ++ " via template " ++ cited place ++ ": " ++ fault.message)

def scaledSize? (text : List Char) : Option Nat :=
  let digits := text.takeWhile Char.isDigit
  let number := if digits.isEmpty then 1 else Text.valueIn 10 digits
  let letters := "KMGTPEZY".toList
  let unit? := fun (letter : Char) (base : Nat) =>
    let known := if letter = 'k' then 'K' else letter
    (letters.findIdx? (· = known)).map fun place => Nat.pow base (place + 1)
  match text.drop digits.length with
  | [] => if digits.isEmpty then none else some number
  | [letter] => (unit? letter 1024).map (number * ·)
  | [letter, 'B'] => (unit? letter 1000).map (number * ·)
  | [letter, 'i', 'B'] => (unit? letter 1024).map (number * ·)
  | _ => none

def resized (sign : Option Char) (old wanted : Nat) : Nat :=
  match sign with
  | some '+' => old + wanted
  | some '-' => old - wanted
  | some '<' => min old wanted
  | some '>' => max old wanted
  | some '/' => old / wanted * wanted
  | some '%' => (old + wanted - 1) / wanted * wanted
  | _ => wanted

def truncate : Program := program do
  let found ← options
    { flags := "co", valued := "sr",
      words := [("size", "s", true), ("no-create", "c", false), ("reference", "r", true), ("io-blocks", "o", false)] }
  let given : Option (Option Char × Nat) ← match found.value? "s" with
    | none => pure none
    | some text =>
      let body := text.toList.dropWhile (· = ' ')
      let (sign, digits) : Option Char × List Char := match body with
        | c :: rest => if "+-<>%/".toList.contains c then (some c, rest) else (none, c :: rest)
        | [] => (none, [])
      match scaledSize? (digits.dropWhile (· = ' ')) with
      | none => fail ("Invalid number: " ++ cited text)
      | some 0 =>
        if sign = some '/' ∨ sign = some '%' then fail "division by zero" else pure (some (sign, 0))
      | some number => pure (some (sign, number * (if found.has "o" then 4096 else 1)))
  let either := "you must specify either " ++ cited "--size" ++ " or " ++ cited "--reference"
  let reference ← match found.value? "r", given with
    | none, none => misuse either
    | some _, some (none, _) =>
      misuse ("you must specify a relative " ++ cited "--size" ++ " with " ++ cited "--reference")
    | some file, _ =>
      match ← presentAt true file with
      | .ok (_, .file _ content _) => pure (some content.size)
      | .ok _ => pure (some 4096)
      | .error fault => fail ("cannot stat " ++ quoted file ++ ": " ++ fault.message)
    | none, some _ => pure none
  if found.operands.isEmpty then misuse "missing file operand"
  let base ← folder
  for file in found.operands do
    let old := ((← tree).read base (path file)).toOption.getD .empty
    let size := match given with
      | some (sign, number) => resized sign (reference.getD old.size) number
      | none => reference.getD 0
    let content := old.extract 0 size ++ ByteArray.mk (Array.replicate (size - old.size) 0)
    if !(found.has "c" && !(← tree).pathExists base (path file)) then
      match ← change fun tree => tree.write base (path file) content with
      | .ok () => pure ()
      | .error fault => complain ("cannot open " ++ quoted file ++ " for writing: " ++ fault.message)

end Assay.Utility
