import Assay.Utility.Placing

/-!
Copying files and folders, and moving them to other places.
-/

namespace Assay.Utility

structure Copying where
  program : String := "cp"
  recursive : Bool := false
  keepsLinks : Bool := false
  forced : Bool := false
  asks : Bool := false
  keeps : Bool := false
  verbose : Bool := false
  links : Option Bool := none
  keepsModes : Bool := false
  keepsTimes : Bool := false
  updates : Bool := false
  backup : Option (Option String) := none
  clears : Bool := false

/-- Tells that something has been copied, and under which name what was there before is kept. -/
def Copying.tell (copying : Copying) (source target : String) (kept : Option String := none) : Utility Unit := do
  if copying.verbose then
    let backup := match kept with
      | some name => " (backup: " ++ quoted name ++ ")"
      | none => ""
    emitText (quoted source ++ " -> " ++ quoted target ++ backup ++ "\n")

def bytesAt (file : String) : Utility (Except FileFault ByteArray) := do
  match ← withInput (if file = "-" then "./-" else file) fun number => lift (Process.readAll number) with
  | .ok result => return result
  | .error fault => return .error fault

def backupNumber (tree : FileTree) (location : Location) : Nat → Nat → Nat
  | 0, number => number
  | fuel + 1, number =>
    let name := location.getLast?.getD "" ++ ".~" ++ toString number ++ "~"
    if (tree.entry? (location.dropLast ++ [name])).isSome then backupNumber tree location fuel (number + 1) else number

def keepBackup (copying : Copying) (location : Location) : Utility (Option String) := do
  match copying.backup with
  | none => return none
  | some ending =>
    let tree ← tree
    let name := location.getLast?.getD ""
    let added := ending.getD (".~" ++ toString (backupNumber tree location tree.entries.length 1) ++ "~")
    ask (.move location (location.dropLast ++ [name ++ added]))
    return some added

def keepTraits (copying : Copying) (found : Traits) (target : String) : Utility Unit := do
  if copying.keepsModes || copying.keepsTimes then
    match ← presentAt (!copying.keepsLinks) target with
    | .ok (location, entry) =>
      let _ ← change fun tree =>
        let old := tree.traitsOf location entry
        .ok (tree.setTraits location entry
          { mode := if copying.keepsModes then found.mode else old.mode
            modified := if copying.keepsTimes then found.modified else old.modified
            accessed := if copying.keepsTimes then found.accessed else old.accessed
            changed := tree.now })
    | .error _ => pure ()

def copyContent (copying : Copying) (source target : String) (mode : Nat) (spot : Spot) (kept : Option String) :
    Utility Unit := do
  match ← bytesAt source with
  | .error fault => complain ("cannot open " ++ quoted source ++ " for reading: " ++ fault.message)
  | .ok content =>
    match spot with
    | .vacant location false =>
      let _ ← change fun tree => .ok (tree.putFileOf location content (mode &&& 0o777))
      copying.tell source target kept
    | .vacant _ true => complain ("cannot create regular file " ++ quoted target ++ ": Not a directory")
    | .present location (.link _) =>
      match ← presentAt true target with
      | .ok (_, .file serial ..) =>
        let _ ← change fun tree => .ok (tree.setContent serial content)
        copying.tell source target
      | .ok _ => copying.tell source target
      | .error _ =>
        if copying.forced then
          let _ ← change fun tree => .ok (tree.putFileOf location content (mode &&& 0o777))
          copying.tell source target
        else complain ("not writing through dangling symlink " ++ quoted target)
    | .present _ (.file serial ..) =>
      let _ ← change fun tree => .ok (tree.setContent serial content)
      copying.tell source target
    | .present _ _ =>
      match ← ask (.openFile (path target) .write (inputNumber + 1)) with
      | .ok () =>
        let _ ← lift (Process.write (inputNumber + 1) content)
        copying.tell source target
      | .error fault => complain ("cannot create regular file " ++ quoted target ++ ": " ++ fault.message)

def sameFile (first second : Location × Entry) : Bool :=
  first.1 = second.1 || (match first.2, second.2 with
    | .file one _ _, .file other _ _ => one = other
    | _, _ => false)

/-- Copies one thing; the number bounds the depth. The location is that of the copy as a whole, which
is not copied into itself. -/
def copyOne (copying : Copying) (whole : Location) : Nat → String → String → Utility Unit
  | 0, _, _ => return
  | depth + 1, source, target => do
    match ← presentAt (!copying.keepsLinks) source, ← spotOf false target with
    | .error fault, _ => complain ("cannot stat " ++ quoted source ++ ": " ++ fault.message)
    | .ok (location, .folder), spot =>
      if !copying.recursive then complain ("-r not specified; omitting directory " ++ quoted source)
      else if location = whole && !whole.isEmpty then
        complain ("cannot copy a directory, " ++ quoted source ++ ", into itself, " ++ quoted target)
      else
        let children := (← tree).children location
        let inside := match spot with
          | .ok (.present place _) | .ok (.vacant place _) => if whole.isEmpty then place else whole
          | .error _ => whole
        let into := do
          for (name, _) in children do
            let child := below source name
            match ← presentAt false child with
            | .ok (place, _) =>
              if place = inside then
                complain ("cannot copy a directory, " ++ quoted source ++ ", into itself, "
                  ++ quoted (String.ofList (withoutEnd target.toList)))
              else copyOne copying inside depth child (below target name)
            | .error _ => pure ()
        match spot with
        | .error fault => complain ("cannot create directory " ++ quoted target ++ ": " ++ fault.message)
        | .ok (.vacant place _) =>
          putAt place .folder
          copying.tell source target
          let traits := (← tree).traitsOf location .folder
          let _ ← change fun tree =>
            .ok (tree.setMode place .folder (Mode.without (traits.mode &&& 0o777) tree.mask))
          into
          keepTraits copying traits target
          if whole.isEmpty && location.isPrefixOf place then
            complain ("cannot copy a directory, " ++ quoted (String.ofList (withoutEnd source.toList))
              ++ ", into itself, " ++ quoted (String.ofList (withoutEnd target.toList)))
        | .ok (.present place _) =>
          if location = place then complain (quoted source ++ " and " ++ quoted target ++ " are the same file")
          else if ← isFolderAt target then
            copying.tell source target
            into
            keepTraits copying ((← tree).traitsOf location .folder) target
          else
            complain ("cannot overwrite non-directory " ++ quoted target ++ " with directory " ++ quoted source)
    | .ok (location, .link way), .ok (.vacant place false) =>
      putAt place (.link way)
      copying.tell source target
      keepTraits copying ((← tree).traitsOf location (.link way)) target
    | .ok (_, .link way), .ok (.present place old) =>
      match old with
      | .folder => complain ("cannot overwrite directory " ++ quoted target ++ " with non-directory")
      | _ =>
        putAt place (.link way)
        copying.tell source target
    | .ok found, .ok spot =>
      let target? ← presentAt true target
      let same := (target?.toOption.map (sameFile found)).getD false
      match target? with
      | .ok (_, .folder) => complain ("cannot overwrite directory " ++ quoted target ++ " with non-directory")
      | _ =>
        if same && copying.links.isNone then
          if !copying.keeps then complain (quoted source ++ " and " ++ quoted target ++ " are the same file")
        else
          let exists? := match spot with
            | .present .. => true
            | .vacant .. => false
          if exists? && copying.keeps then return
          let traits := (← tree).traitsOf found.1 found.2
          match target? with
          | .ok (place, old) =>
            if copying.updates && traits.modified ≤ ((← tree).traitsOf place old).modified then return
          | .error _ => pure ()
          if exists? && copying.asks then
            if !(← agreed (copying.program ++ ": overwrite " ++ quoted target ++ "? ")) then return
          let (spot, kept) : Spot × Option String ← match spot with
            | .present place _ =>
              if copying.backup.isSome then
                let added ← keepBackup copying place
                pure (.vacant place false, added.map (target ++ ·))
              else if copying.clears then
                let _ ← change fun tree => .ok (tree.removeBelow place)
                pure (.vacant place false, none)
              else pure (spot, none)
            | .vacant .. => pure (spot, none)
          match copying.links, spot with
          | some symbolic, _ =>
            linkOne { symbolic, forced := copying.forced } source target
          | none, _ =>
            copyContent copying source target traits.mode spot kept
            keepTraits copying traits target
    | .ok _, .error fault => complain ("cannot create regular file " ++ quoted target ++ ": " ++ fault.message)

def destinations (found : Found) : Utility (List (String × String)) := do
  let into := fun (target : String) (sources : List String) =>
    sources.map fun source => (source, below target (lastName source))
  match found.value? "t", found.operands with
  | _, [] => misuse "missing file operand"
  | some target, sources =>
    match ← presentAt true target with
    | .ok (_, .folder) => return into target sources
    | .ok _ => fail ("target directory " ++ quoted target ++ ": Not a directory")
    | .error fault => fail ("target directory " ++ quoted target ++ ": " ++ fault.message)
  | none, [source] => misuse ("missing destination file operand after " ++ quoted source)
  | none, [source, target] =>
    if found.has "T" then return [(source, target)]
    else
      match ← presentAt true target with
      | .ok (_, .folder) => return into target [source]
      | .error .notFound =>
        let isMissing := target.toList.getLast? = some '/' && !(← isFolderAt source)
        if isMissing && (match ← spotOf true (folderName target) with
            | .ok _ => (withoutEnd target.toList).isEmpty
            | .error _ => false) then
          fail ("target " ++ quoted target ++ ": No such file or directory")
        else return [(source, target)]
      | _ => return [(source, target)]
  | none, several =>
    let target := several.getLast?.getD ""
    if found.has "T" then misuse ("extra operand " ++ quoted (several.getD 2 ""))
    else
      match ← presentAt true target with
      | .ok (_, .folder) => return into target several.dropLast
      | .ok _ => fail ("target " ++ quoted target ++ ": Not a directory")
      | .error fault => fail ("target " ++ quoted target ++ ": " ++ fault.message)

def backupOf (found : Found) : Option (Option String) :=
  if found.has "b" || found.has "backup" then
    match found.value? "backup" with
    | some "numbered" | some "t" => some none
    | some "none" | some "off" => none
    | _ => some (some ((found.value? "S").getD "~"))
  else none

def parentPairs (found : Found) : Utility (List (String × String)) := do
  match found.value? "t", found.operands with
  | _, [] => misuse "missing file operand"
  | some target, sources => sources.mapM (pairIn target)
  | none, [source] => misuse ("missing destination file operand after " ++ quoted source)
  | none, several => several.dropLast.mapM (pairIn (several.getLast?.getD ""))
where
  pairIn (target source : String) : Utility (String × String) := do
    if !(← isFolderAt target) then fail "with --parents, the destination must be a directory"
    let inner := String.ofList (source.toList.dropWhile (· = '/'))
    let whole := below target inner
    let above := folderName whole
    makeAll none "" (stepsOf above)
    return (source, whole)

def cp : Program := program do
  let found ← options
    { flags := "abdfHilLnpPRrsTuvxZ", valued := "tS", lenient := ["preserve", "sparse", "reflink", "update", "backup"],
      words := [("archive", "a", false), ("force", "f", false), ("interactive", "i", false),
                ("link", "l", false), ("dereference", "L", false), ("no-clobber", "n", false),
                ("no-dereference", "P", false), ("preserve", "p", false), ("recursive", "R", false),
                ("symbolic-link", "s", false), ("target-directory", "t", true),
                ("no-target-directory", "T", false), ("update", "u", false), ("verbose", "v", false),
                ("no-preserve", "no-preserve", true), ("reflink", "x", false), ("sparse", "x", false), ("backup", "backup", false),
                ("suffix", "S", true), ("remove-destination", "clear", false), ("parents", "parents", false),
                ("one-file-system", "x", false), ("attributes-only", "attributes-only", false),
                ("strip-trailing-slashes", "strip", false)] }
  let recursive := found.has "r" || found.has "R" || found.has "a"
  let kept := (found.options.filterMap fun (key, value) =>
    if key = "a" then some ["mode", "timestamps"]
    else if key = "p" then
      some (if value = "" then ["mode", "timestamps"] else ((value.toList.splitOn ',').map String.ofList))
    else none).flatten
  let copying : Copying :=
    { recursive
      keepsLinks := (recursive || found.has "d" || found.has "P") && !found.has "L"
      forced := found.has "f"
      asks := found.last? ["i", "n"] = some "i"
      keeps := found.last? ["i", "n"] = some "n"
      verbose := found.has "v"
      links := if found.has "s" then some true else if found.has "l" then some false else none
      keepsModes := kept.contains "mode" || kept.contains "all"
      keepsTimes := kept.contains "timestamps" || kept.contains "all"
      updates := found.has "u"
      clears := found.has "clear"
      backup := backupOf found }
  let pairs ← if found.has "parents" then parentPairs found else destinations found
  for (source, target) in pairs do
    copyOne copying [] ((← tree).entries.length + 2) source target

def moveOne (copying : Copying) (source target : String) : Utility Unit := do
  let tell := do if copying.verbose then emitText ("renamed " ++ quoted source ++ " -> " ++ quoted target ++ "\n")
  match ← presentAt false source with
  | .error fault => complain ("cannot stat " ++ quoted source ++ ": " ++ fault.message)
  | .ok (location, entry) =>
    let isFolder : Bool := match entry with
      | .folder => true
      | _ => false
    let go := fun place : Location => do
      ask (.move location place)
      tell
    let refused := fun fault : FileFault =>
      complain ("cannot move " ++ quoted source ++ " to " ++ quoted target ++ ": " ++ fault.message)
    match ← spotOf false target with
    | .error .notFound => refused .notFound
    | .error fault => complain ("cannot stat " ++ quoted target ++ ": " ++ fault.message)
    | .ok (.vacant place slash) =>
      if slash && !isFolder then refused .notAFolder
      else if location.isPrefixOf place then
        complain ("cannot move " ++ quoted source ++ " to a subdirectory of itself, " ++ quoted target)
      else go place
    | .ok (.present place old) =>
      if place = location then
        complain (quoted source ++ " and " ++ quoted target ++ " are the same file")
        return
      let goes ← if copying.keeps then pure false
        else if copying.updates && ((← tree).traitsOf location entry).modified ≤ ((← tree).traitsOf place old).modified then
          pure false
        else if copying.asks then agreed ("mv: overwrite " ++ quoted target ++ "? ") else pure true
      if !goes then return
      else
        match isFolder, old with
        | true, .folder =>
          if location.isPrefixOf place then
            complain ("cannot move " ++ quoted source ++ " to a subdirectory of itself, " ++ quoted target)
          else if ((← tree).listing place).isEmpty then go place
          else complain ("cannot overwrite " ++ quoted target ++ ": Directory not empty")
        | true, _ =>
          complain ("cannot overwrite non-directory " ++ quoted target ++ " with directory " ++ quoted source)
        | false, .folder =>
          complain ("cannot overwrite directory " ++ quoted target ++ " with non-directory")
        | false, _ =>
          if sameFile (location, entry) (place, old) then
            let base ← folder
            let _ ← change fun tree => tree.remove base (path source)
            tell
          else
            let added ← keepBackup copying place
            ask (.move location place)
            if copying.verbose then
              emitText ("renamed " ++ quoted source ++ " -> " ++ quoted target ++ (match added with
                | some ending => " (backup: " ++ quoted (target ++ ending) ++ ")"
                | none => "") ++ "\n")

def mv : Program := program do
  let found ← options
    { flags := "bfinTuvZ", valued := "tS",
      words := [("force", "f", false), ("interactive", "i", false), ("no-clobber", "n", false),
                ("target-directory", "t", true), ("no-target-directory", "T", false), ("update", "u", false),
                ("verbose", "v", false), ("backup", "backup", false), ("suffix", "S", true),
                ("strip-trailing-slashes", "strip", false)],
      lenient := ["backup", "update"] }
  let copying : Copying :=
    { program := "mv"
      updates := found.has "u"
      backup := backupOf found
      asks := found.last? ["f", "i", "n"] = some "i"
      keeps := found.last? ["f", "i", "n"] = some "n"
      verbose := found.has "v" }
  for (source, target) in ← destinations found do
    moveOne copying source target

def install : Program := program do
  let found ← options
    { flags := "bcCdDpsTv", valued := "gmotS", lenient := ["backup"],
      words := [("directory", "d", false), ("mode", "m", true), ("target-directory", "t", true),
                ("verbose", "v", false), ("preserve-timestamps", "p", false), ("group", "g", true), ("owner", "o", true),
                ("compare", "C", false), ("strip", "s", false), ("backup", "backup", false), ("suffix", "S", true),
                ("no-target-directory", "T", false)] }
  let steps ← match found.value? "m" with
    | none => pure ((Mode.change? "755").getD [])
    | some mode =>
      match Mode.change? mode with
      | some steps => pure steps
      | none => fail ("invalid mode " ++ cited mode)
  if found.operands.isEmpty then misuse "missing file operand"
  let permit := fun (target : String) => do
    match ← presentAt true target with
    | .ok (location, entry) => setMode location entry (Mode.changed steps (entry matches .folder) 0 0)
    | .error _ => pure ()
  if found.has "d" then
    for file in found.operands do
      makeAll (if found.has "v" then some "install: creating" else none) "" (stepsOf file)
      permit file
  else
    if found.has "D" then
      let above := (found.value? "t").getD (folderName (found.operands.getLast?.getD ""))
      makeAll (if found.has "v" then some "install: creating" else none) "" (stepsOf above)
    let copying : Copying :=
      { verbose := found.has "v", keepsTimes := found.has "p", backup := backupOf found }
    for (source, target) in ← destinations found do
      if ← isFolderAt source then complain ("omitting directory " ++ quoted source)
      else
        match ← presentAt false target with
        | .ok (location, .file ..) =>
          let own := (← presentAt true source).toOption.map Prod.fst
          if own ≠ some location && copying.backup.isNone then
            let base ← folder
            let _ ← change fun tree => tree.remove base (path target)
        | _ => pure ()
        copyOne copying [] 4 source target
        permit target

end Assay.Utility
