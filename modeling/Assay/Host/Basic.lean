import Assay.Host.Activity
import Assay.Host.Signal
import Assay.Surroundings

/-!
The host: files, a clock, open streams, and the programs that are at work.
-/

namespace Assay

inductive Stream
  | file (serial position : Nat) (appends : Bool)
  | pipe (content : ByteArray)
  | folder
  | device (kind : Device)

structure Task where
  number : Nat
  group : Nat
  parent : Nat := 1
  folder : Location := []
  channels : Channels := []
  made : List Nat := []
  reactions : List (Nat × Reaction) := []
  caught : List Nat := []
  activity : Activity
  wake : Nat := 0
  waits : Bool := false
  stopped : Bool := false
  mask : Nat := 18
  sizeLimit : Option Nat := none
  opening : Option (Nat × Bool) := none

structure Ended where
  number : Nat
  parent : Nat
  ending : Ending

structure Host where
  tree : FileTree := .empty
  working : Location := []
  written : working.Written := by decide
  clock : Nat := 0
  streams : List (Nat × Stream) := []
  lost : List (Nat × ByteArray) := []
  tasks : List Task := []
  endings : List Ended := []
  nextNumber : Nat := 1000
  named : List (Nat × Nat) := []
  locks : List (Nat × Nat × Bool) := []

def Task.within (tree : FileTree) (task : Task) : Task :=
  if tree.isFolderAt task.folder then task else { task with folder := tree.standing [] task.folder }

namespace Host

def fresh (host : Host) : Nat × Host :=
  (host.nextNumber, { host with nextNumber := host.nextNumber + 1 })

def openStream (host : Host) (stream : Stream) : Nat × Host :=
  let (id, after) := host.fresh
  (id, { after with streams := (id, stream) :: after.streams })

def setStream (host : Host) (id : Nat) (stream : Stream) : Host :=
  { host with streams := host.streams.map fun item => if item.1 = id then (id, stream) else item }

def withTree (host : Host) (tree : FileTree) : Host :=
  let gone := host.streams.filterMap fun item =>
    match item.2 with
    | .file serial _ _ =>
      if (tree.contentOf? serial).isSome || (host.lost.lookup serial).isSome then none
      else (host.tree.contentOf? serial).map fun content => (serial, content)
    | _ => none
  { host with tree, lost := gone ++ host.lost, tasks := host.tasks.map (Task.within tree) }

def contentOf (host : Host) (serial : Nat) : ByteArray :=
  ((host.tree.contentOf? serial).orElse fun _ => host.lost.lookup serial).getD .empty

def setContent (host : Host) (serial : Nat) (content : ByteArray) : Host :=
  match host.lost.lookup serial with
  | some _ =>
    { host with lost := host.lost.map fun item => if item.1 = serial then (serial, content) else item }
  | none => { host with tree := host.tree.setContent serial content }

/-- Forgets the streams that no program holds open. The list names those of a program that stands
aside. -/
def forget (host : Host) (aside : Channels) : Host :=
  let held := (aside :: host.tasks.map Task.channels).flatMap fun channels =>
    channels.map fun item => item.2.stream
  let kept := host.tasks.flatMap Task.made
  let streams := host.streams.filter fun item => held.contains item.1 || kept.contains item.1
  { host with
    streams
    locks := if host.locks.isEmpty then [] else
      host.locks.filter fun lock => streams.any fun item => item.1 = lock.2.1 }

def hasReader (host : Host) (id : Nat) : Bool :=
  host.tasks.any fun task => task.channels.any fun item => item.2.stream = id && item.2.readable

def hasWriter (host : Host) (id : Nat) : Bool :=
  host.tasks.any fun task => task.channels.any fun item => item.2.stream = id && item.2.writable

def endingOf? (host : Host) (number : Nat) : Option Ending :=
  (host.endings.find? (·.number = number)).map Ended.ending

def bury (host : Host) (task : Task) (ending : Ending) : Host :=
  let adopted := host.tasks.map fun other =>
    if other.parent = task.number then { other with parent := 1 } else other
  let left : Host :=
    { host with
      tasks := adopted
      endings := (host.endings.filter (·.parent ≠ task.number))
        ++ [{ number := task.number, parent := task.parent, ending }] }
  left.forget []

def endTasks (host : Host) (signal : Nat) (chosen : Task → Bool) : Host :=
  (host.tasks.filter chosen).foldl (fun left task => left.bury task (.signal signal))
    { host with tasks := host.tasks.filter fun task => !chosen task }

end Host

namespace Task

def channel? (task : Task) (number : Nat) : Option Channel := task.channels.lookup number

def reaction (task : Task) (signal : Nat) : Reaction :=
  if signal = Signal.kill ∨ signal = Signal.stop then .standard
  else (task.reactions.lookup signal).getD .standard

def receive (task : Task) (signal : Nat) : Option Task :=
  let awake := if signal = Signal.cont then { task with stopped := false } else task
  match task.reaction signal with
  | .ignored => some awake
  | .caught =>
    some { awake with caught := if signal ∈ awake.caught then awake.caught else awake.caught ++ [signal] }
  | .standard =>
    match Signal.effect signal with
    | .ends => none
    | .stops => some { awake with stopped := true }
    | .resumes | .nothing => some awake

end Task

def overwrite (content : ByteArray) (position : Nat) (bytes : ByteArray) : ByteArray :=
  if position = content.size then content ++ bytes
  else
    let padding := ByteArray.mk (Array.replicate (position - content.size) 0)
    content.extract 0 position ++ padding ++ bytes
      ++ content.extract (position + bytes.size) content.size

instance : Surroundings Host where
  tree := Host.tree
  working host := { location := host.working, written := host.written }
  createFolder path host :=
    let (tree, result) := host.tree.createFolderAll host.working path
    (result, host.withTree tree)
  writeText path text host :=
    match host.tree.write host.working path text.toUTF8 with
    | .ok tree => (.ok (), host.withTree tree)
    | .error fault => (.error fault, host)

end Assay
