import Assay.Files.Entries
import Assay.Files.Fault
import Assay.Files.Mode

/-!
A file tree: regular files, folders and symbolic links under one root. Looking a path up follows
links the way a file system does, from a working folder, name by name.
-/

namespace Assay

/-- What is noted about an entry besides what is in it. Times are nanoseconds since the beginning of 1970. -/
structure Traits where
  mode : Nat
  modified : Int
  accessed : Int
  changed : Int
deriving DecidableEq, Repr

inductive Bearer
  | file (serial : Nat)
  | place (location : Location)
deriving DecidableEq, Repr

def Traits.start : Int := 1699999999000000000

/-- An entry whose name spells no text. No path leads to it: only a listing of its folder shows it. -/
structure Stray where
  folder : Location
  name : ByteArray
  entry : Entry
  nameless : String.fromUTF8? name = none

structure FileTree where
  entries : Entries := []
  housed : entries.Housed := by decide
  strays : List Stray := []
  nextSerial : Nat := 0
  traits : List (Bearer × Traits) := []
  now : Int := Traits.start
  mask : Nat := 18

inductive Spot
  | present (location : Location) (entry : Entry)
  | vacant (location : Location) (folderOnly : Bool)

namespace Location

def path (location : Location) : Path := ⟨"/" ++ "/".intercalate location⟩

/-- A path made absolute by its text alone: doubled slashes and inner dots go, but two slashes at the
front and one at the end stay, and nothing has to exist. -/
def absolute (working : Location) (path : Path) : Except FileFault Path :=
  if path.text = "" then .error .emptyPath
  else
    let names := path.components.filter fun name => name ≠ "/" ∧ name ≠ "."
    let front : Path :=
      if path.isAbsolute then
        if "//".isPrefixOf path.text && !"///".isPrefixOf path.text then ⟨"//"⟩ else ⟨"/"⟩
      else working.path
    let whole := names.foldl (fun above name => above / ⟨name⟩) front
    .ok (if path.text.toList.getLast? = some '/' then whole / ⟨""⟩ else whole)

end Location

namespace FileTree

def empty : FileTree := {}

def entry? (tree : FileTree) (location : Location) : Option Entry :=
  if location = [] then some .folder else tree.entries.lookup location

def linkLimit : Nat := 40

def pathLimit : Nat := 4095

def isFolderAt (tree : FileTree) (location : Location) : Bool :=
  match tree.entry? location with
  | some .folder => true
  | _ => false

/-- Follows names from a folder, which may be gone by now: then only the way up is left. Where a link has
to be followed, `onLink` takes the folder that its target is looked up from, and the names that are
left. -/
def walkNames (tree : FileTree) (follow : Bool)
    (onLink : Location → List String → Except FileFault Spot) (here : Location) :
    List String → Except FileFault Spot
  | [] => .ok (.present here .folder)
  | name :: rest =>
    if name = "" ∨ name = "." then walkNames tree follow onLink here rest
    else if name = ".." then walkNames tree follow onLink here.dropLast rest
    else if Entries.nameLimit < name.utf8ByteSize then .error .nameTooLong
    else
      match tree.entry? (here ++ [name]) with
      | none =>
        if rest.all (· = "") && tree.isFolderAt here then .ok (.vacant (here ++ [name]) (rest ≠ []))
        else .error .notFound
      | some .folder => walkNames tree follow onLink (here ++ [name]) rest
      | some (.file serial content executable) =>
        if rest = [] then .ok (.present (here ++ [name]) (.file serial content executable))
        else .error .notAFolder
      | some (.device kind) =>
        if rest = [] then .ok (.present (here ++ [name]) (.device kind)) else .error .notAFolder
      | some (.link target) =>
        if rest = [] ∧ follow = false then .ok (.present (here ++ [name]) (.link target))
        else if target.text = "" then .error .notFound
        else onLink (if target.isAbsolute then [] else here) (target.pieces ++ rest)

def walk (tree : FileTree) (follow : Bool) : Nat → Location → List String → Except FileFault Spot
  | 0 => walkNames tree follow fun _ _ => .error .tooManyLinks
  | links + 1 => walkNames tree follow (walk tree follow links)

def locate (tree : FileTree) (working : Location) (follow : Bool) (path : Path) : Except FileFault Spot :=
  if path.text = "" then .error .notFound
  else if path.text.toList.contains '\x00' then .error .invalidName
  else if pathLimit < path.text.utf8ByteSize then .error .nameTooLong
  else walk tree follow linkLimit (if path.isAbsolute then [] else working) path.pieces

def lostName (name : String) : String := if name.toList.contains '\x00' then name else name ++ "\x00"

def isLost (location : Location) : Bool := location.any fun name => name.toList.contains '\x00'

/-- Where a program is that stands in a folder: a folder that is gone gets a location to which no path
leads, so that a later one of the same name is another folder. -/
def standing (tree : FileTree) (above : Location) : List String → Location
  | [] => above
  | name :: rest =>
    let here := above ++ [name]
    standing tree (if tree.isFolderAt here then here else above ++ [lostName name]) rest

def target? (tree : FileTree) (working : Location) (path : Path) : Option (Location × Entry) :=
  match tree.locate working true path with
  | .ok (.present location entry) => some (location, entry)
  | _ => none

def pathExists (tree : FileTree) (working : Location) (path : Path) : Bool :=
  (tree.target? working path).isSome

def isFile (tree : FileTree) (working : Location) (path : Path) : Bool :=
  match tree.target? working path with
  | some (_, .file ..) => true
  | _ => false

def isFolder (tree : FileTree) (working : Location) (path : Path) : Bool :=
  match tree.target? working path with
  | some (_, .folder) => true
  | _ => false

def resolve (tree : FileTree) (working : Location) (path : Path) : Except FileFault Location :=
  match tree.locate working true path with
  | .ok (.present location _) => .ok location
  | .ok (.vacant ..) => .error .notFound
  | .error fault => .error fault

/-! Sites. -/

section

variable {tree : FileTree} {location : Location} {entry : Entry}

theorem mem_of_found (inner : location ≠ []) (found : tree.entry? location = some entry) :
    (location, entry) ∈ tree.entries := by
  unfold entry? at found
  rw [if_neg inner] at found
  obtain ⟨before, after, split, -⟩ := List.lookup_eq_some_iff.mp found
  simp [split]

theorem written_of_found (found : tree.entry? location = some entry) : location.Written := by
  by_cases inner : location = []
  · simp [inner, Location.Written]
  · have room := tree.housed.room _ (mem_of_found inner found)
    exact fun name member => ⟨(room.called name member).written, (room.called name member).slashless⟩

theorem walkNames_written {follow : Bool} {onLink : Location → List String → Except FileFault Spot}
    (linked : ∀ above names, Location.Written above → ∀ location entry,
      onLink above names = .ok (.present location entry) → location.Written)
    {here : Location} {names : List String} (written : here.Written)
    (found : tree.walkNames follow onLink here names = .ok (.present location entry)) :
    location.Written := by
  fun_induction walkNames tree follow onLink here names with
  | case1 here =>
    cases found
    exact written
  | case2 here name rest idle ih => exact ih written found
  | case3 here rest idle ih => exact ih written.dropLast found
  | case7 here name rest idle inner fits there ih => exact ih (written_of_found there) found
  | case8 here name idle inner fits serial content executable there =>
    cases found
    exact written_of_found there
  | case10 here name idle inner fits kind there =>
    cases found
    exact written_of_found there
  | case12 here name rest idle inner fits target there =>
    cases found
    exact written_of_found there
  | case14 here name rest =>
    refine linked _ _ ?_ _ _ found
    split
    · simp [Location.Written]
    · exact written
  | _ => cases found

theorem walk_written {follow : Bool} {links : Nat} {here : Location} {names : List String}
    (written : here.Written) (found : tree.walk follow links here names = .ok (.present location entry)) :
    location.Written := by
  induction links generalizing here names location entry with
  | zero => exact walkNames_written (by simp) written found
  | succ links ih => exact walkNames_written (fun _ _ above _ _ => ih above) written found

theorem resolve_written {working : Location} {path : Path} (written : working.Written)
    (resolved : tree.resolve working path = .ok location) : location.Written := by
  unfold resolve at resolved
  split at resolved
  · next found =>
    obtain rfl := Except.ok.inj resolved
    unfold locate at found
    split at found
    · cases found
    split at found
    · cases found
    split at found
    · cases found
    refine walk_written ?_ found
    split
    · simp [Location.Written]
    · exact written
  · cases resolved
  · cases resolved

end

def resolveSite (tree : FileTree) (working : Site) (path : Path) : Except FileFault Site :=
  match resolved : tree.resolve working path with
  | .ok location => .ok { location, written := resolve_written working.written resolved }
  | .error fault => .error fault

theorem resolveSite_of_resolve {tree : FileTree} {working : Site} {path : Path} {location : Location}
    (resolved : tree.resolve working path = .ok location) :
    ∃ site : Site, site.location = location ∧ tree.resolveSite working path = .ok site := by
  refine ⟨{ location, written := resolve_written working.written resolved }, rfl, ?_⟩
  unfold resolveSite
  split
  · next found =>
    cases resolved.symm.trans found
    rfl
  · next found => cases resolved.symm.trans found

def childName? (folder location : Location) : Option String :=
  if location.dropLast = folder then location.getLast? else none

def children (tree : FileTree) (folder : Location) : List (String × Entry) :=
  tree.entries.filterMap fun (location, entry) =>
    (childName? folder location).map fun name => (name, entry)

/-- All that is directly inside a folder, in no particular order, each under the bytes of its name. -/
def listing (tree : FileTree) (folder : Location) : List (ByteArray × Entry) :=
  (tree.children folder).map (fun child => (child.1.toUTF8, child.2)) ++
    (tree.strays.filter fun stray => stray.folder = folder).map fun stray => (stray.name, stray.entry)

def read (tree : FileTree) (working : Location) (path : Path) : Except FileFault ByteArray :=
  match tree.locate working true path with
  | .ok (.present _ (.file _ content _)) => .ok content
  | .ok (.present _ (.device .null)) => .ok .empty
  | .ok (.present _ (.device _)) => .error .noDevice
  | .ok (.present _ _) => .error .isAFolder
  | .ok (.vacant ..) => .error .notFound
  | .error fault => .error fault

/-! What is noted about entries. -/

def bearerOf (location : Location) : Entry → Bearer
  | .file serial _ _ => .file serial
  | _ => .place location

def usualMode : Entry → Nat
  | .file _ _ true | .folder => 0o755
  | .file _ _ false => 0o644
  | .link _ => 0o777
  | .device _ => 0o666

def traitsOf (tree : FileTree) (location : Location) (entry : Entry) : Traits :=
  (tree.traits.lookup (bearerOf location entry)).getD
    { mode := usualMode entry, modified := Traits.start, accessed := Traits.start, changed := Traits.start }

def note (tree : FileTree) (bearer : Bearer) (traits : Traits) : FileTree :=
  { tree with traits := (bearer, traits) :: tree.traits.filter (·.1 ≠ bearer) }

def fresh (tree : FileTree) (mode : Nat) : Traits :=
  { mode := Mode.without mode tree.mask, modified := tree.now, accessed := tree.now, changed := tree.now }

def stirred (tree : FileTree) (folder : Location) : FileTree :=
  let old := tree.traitsOf folder .folder
  tree.note (.place folder) { old with modified := tree.now, changed := tree.now }

/-- Puts an entry at a location, in place of the one that stood there. Without room for it nothing changes. -/
def place (tree : FileTree) (location : Location) (entry : Entry) : FileTree :=
  if room : tree.entries.HasRoom location then
    { tree with
      entries := tree.entries.placed location entry
      housed := tree.housed.placed room entry }
  else tree

/-- Puts an entry at a location and notes that it is new there. A file that stands somewhere else as well stays
as it is. -/
def put (tree : FileTree) (location : Location) (entry : Entry) : FileTree :=
  let placed := tree.place location entry
  let noted := match entry with
    | .file serial _ _ =>
      match tree.traits.lookup (Bearer.file serial) with
      | some old => placed.note (.file serial) { old with changed := tree.now }
      | none => placed
    | .folder => placed.note (.place location) (tree.fresh 0o777)
    | .link _ => placed.note (.place location) { tree.fresh 0o777 with mode := 0o777 }
    | .device _ => placed.note (.place location) (tree.fresh 0o666)
  noted.stirred location.dropLast

def putFileOf (tree : FileTree) (location : Location) (content : ByteArray) (mode : Nat) : FileTree :=
  let traits := tree.fresh mode
  let serial := tree.nextSerial
  { (tree.put location (.file serial content (Mode.runs traits.mode))).note (.file serial) traits with
    nextSerial := serial + 1 }

def putFile (tree : FileTree) (location : Location) (content : ByteArray) (executable : Bool) :
    FileTree := tree.putFileOf location content (if executable then 0o777 else 0o666)

def mapFiles (tree : FileTree) (change : Nat → ByteArray → Bool → Entry) : FileTree :=
  { tree with
    entries := tree.entries.map fun item => (item.1, item.2.mapFile change)
    housed := tree.housed.map rfl }

def setTraits (tree : FileTree) (location : Location) (entry : Entry) (traits : Traits) : FileTree :=
  let noted := tree.note (bearerOf location entry) traits
  match entry with
  | .file serial _ _ => noted.mapFiles fun other content runs =>
    .file other content (if other = serial then Mode.runs traits.mode else runs)
  | _ => noted

def setMode (tree : FileTree) (location : Location) (entry : Entry) (mode : Nat) : FileTree :=
  tree.setTraits location entry { tree.traitsOf location entry with mode, changed := tree.now }

def contentOf? (tree : FileTree) (serial : Nat) : Option ByteArray :=
  tree.entries.findSome? fun item =>
    match item.2 with
    | .file other content _ => if other = serial then some content else none
    | _ => none

def setContent (tree : FileTree) (serial : Nat) (content : ByteArray) : FileTree :=
  let executable := tree.entries.any fun item =>
    match item.2 with
    | .file other _ runs => other = serial && runs
    | _ => false
  let old := tree.traitsOf [] (.file serial .empty executable)
  let noted := tree.note (.file serial) { old with modified := tree.now, changed := tree.now }
  noted.mapFiles fun other bytes runs => .file other (if other = serial then content else bytes) runs

def write (tree : FileTree) (working : Location) (path : Path) (content : ByteArray) :
    Except FileFault FileTree :=
  match tree.locate working true path with
  | .ok (.present _ (.file serial _ _)) => .ok (tree.setContent serial content)
  | .ok (.present _ (.device .full)) => if content.isEmpty then .ok tree else .error .noSpace
  | .ok (.present _ (.device .terminal)) => .error .noDevice
  | .ok (.present _ (.device _)) => .ok tree
  | .ok (.present _ _) => .error .isAFolder
  | .ok (.vacant location false) => .ok (tree.putFile location content false)
  | .ok (.vacant _ true) => .error .isAFolder
  | .error fault => .error fault

/-- Makes one folder. A link in its place is not followed, not even with a slash behind its name. -/
def createFolder (tree : FileTree) (working : Location) (path : Path) : Except FileFault FileTree :=
  match tree.locate working false path.withoutEndSlashes with
  | .ok (.present ..) => .error .alreadyExists
  | .ok (.vacant location _) => .ok (tree.put location .folder)
  | .error fault => .error fault

/-- Makes a folder and the missing ones above it; the first argument bounds their number. -/
def createFolders (tree : FileTree) (working : Location) : Nat → Path → FileTree × Except FileFault Unit
  | 0, _ => (tree, .error .notFound)
  | depth + 1, path =>
    if path.text = "" then (tree, .ok ())
    else
      match tree.createFolder working path with
      | .ok made => (made, .ok ())
      | .error .notFound =>
        match path.parent? with
        | none => (tree, .error .notFound)
        | some parent =>
          match tree.createFolders working depth parent with
          | (above, .error fault) => (above, .error fault)
          | (above, .ok ()) =>
            match above.createFolder working path with
            | .ok made => (made, .ok ())
            | .error fault =>
              (above, if above.isFolder working path then .ok () else .error fault)
      | .error fault => (tree, if tree.isFolder working path then .ok () else .error fault)

def createFolderAll (tree : FileTree) (working : Location) (path : Path) :
    FileTree × Except FileFault Unit :=
  tree.createFolders working (path.components.length + 2) path

def remove (tree : FileTree) (working : Location) (path : Path) : Except FileFault FileTree :=
  match tree.locate working false path with
  | .ok (.present _ .folder) => .error .isAFolder
  | .ok (.present location _) =>
    let left : FileTree :=
      { tree with
        entries := tree.entries.without location
        housed := tree.housed.without location
        traits := tree.traits.filter (·.1 ≠ Bearer.place location) }
    .ok (left.stirred location.dropLast)
  | .ok (.vacant ..) => .error .notFound
  | .error fault => .error fault

def isBelow (location : Location) : Bearer → Bool
  | .place other => location.isPrefixOf other
  | .file _ => false

def withoutStrays (tree : FileTree) (folder : Location) : FileTree :=
  { tree with strays := tree.strays.filter fun stray => stray.folder ≠ folder }

def removeBelow (tree : FileTree) (location : Location) : FileTree :=
  let left : FileTree :=
    { tree with
      entries := tree.entries.without location
      housed := tree.housed.without location
      strays := tree.strays.filter fun stray => ¬ location.isPrefixOf stray.folder
      traits := tree.traits.filter fun item => !isBelow location item.1 }
  left.stirred location.dropLast

theorem removeBelow_vacant (tree : FileTree) (location : Location) :
    ∀ item ∈ (tree.removeBelow location).entries, ¬ location <+: item.1 :=
  fun _ member => (Entries.mem_without_iff.mp member).2

/-- Puts an entry, with all that stands below it, to another location. What stood there goes. Nothing changes
where there is no room for it, as below itself. -/
def moveBelow (tree : FileTree) (source target : Location) : FileTree :=
  let kept := tree.removeBelow target
  if fits : kept.entries.HasRoom target ∧ ¬ source <+: target then
    let placed : FileTree :=
      { kept with
        entries := kept.entries.map fun item => (Entries.moved source target item.1, item.2)
        housed := kept.housed.moved fits.1 (tree.removeBelow_vacant target) fits.2
        strays := kept.strays.map fun stray =>
          { stray with folder := Entries.moved source target stray.folder }
        traits := kept.traits.map fun item => match item.1 with
          | .place location => (.place (Entries.moved source target location), item.2)
          | .file _ => item }
    placed.stirred source.dropLast
  else tree

end FileTree

end Assay
