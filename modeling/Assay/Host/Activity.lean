import Assay.Files.Tree

/-!
What a running program asks of the host, and its work as a tree of such requests: each answer leads
to the next request, up to the end of the program.
-/

namespace Assay

inductive Ending
  | code (n : Nat)
  | signal (number : Nat)
deriving DecidableEq, Repr

structure Channel where
  stream : Nat
  readable : Bool := false
  writable : Bool := false
deriving DecidableEq, Repr

abbrev Channels := List (Nat × Channel)

namespace Channels

def put (channels : Channels) (number : Nat) (channel : Channel) : Channels :=
  (number, channel) :: channels.filter (·.1 ≠ number)

def drop (channels : Channels) (number : Nat) : Channels := channels.filter (·.1 ≠ number)

end Channels

structure Standing where
  serial : Nat
  position : Nat
  size : Nat
  appends : Bool := false

inductive OpenMode
  | read
  | write
  | append
  | readWrite
  | create
deriving DecidableEq, Repr

inductive Reaction
  | standard
  | ignored
  | caught
deriving DecidableEq, Repr

inductive Waited
  | ended (number : Nat) (ending : Ending)
  | nobody
  | busy
  | interrupted
deriving DecidableEq, Repr

structure Awaited where
  numbers : Option (List Nat) := none
  looksOnly : Bool := false
  interruptible : Bool := false

def Host.firstSecond : Nat := 1700000000

def Host.tick : Nat := 4000

def Host.fileTime (clock : Nat) : Int :=
  ((Host.firstSecond * 1000000 + clock / Host.tick * Host.tick) * 1000 : Nat)

inductive HostRequest
  /-- Up to some bytes from a channel; none at its end. -/
  | read (channel size : Nat)
  | write (channel : Nat) (content : ByteArray)
  | openFile (path : Path) (mode : OpenMode) (channel : Nat)
  | pipe
  | channels
  | setChannels (channels : Channels)
  | standing (channel : Nat)
  /-- The position of a channel goes back by some bytes. -/
  | giveBack (channel count : Nat)
  | tree
  | change (operation : FileTree → Except FileFault FileTree)
  | move (source target : Location)
  | folder
  | enter (folder : Location)
  | number
  | parent
  | clock
  | pause (microseconds : Nat)
  | send (target : Int) (signal : Nat)
  | react (signal : Nat) (reaction : Reaction)
  | reactions
  | caught
  | wait (awaited : Awaited)
  | replace
  | leaveGroup
  | mask
  | setMask (mask : Nat)
  /-- The bytes that files may have, if there is a limit. -/
  | sizeLimit
  | setSizeLimit (limit : Option Nat)
  | lock (channel : Nat) (alone : Option Bool)
  | ends

@[reducible] def HostRequest.Answer : HostRequest → Type
  | read .. => Except FileFault ByteArray
  | write .. => Except FileFault Unit
  | openFile .. => Except FileFault Unit
  | pipe => Channel × Channel
  | channels => Channels
  | setChannels _ => Unit
  | standing _ => Option Standing
  | giveBack .. => Unit
  | tree => FileTree
  | change _ => Except FileFault Unit
  | move .. => Unit
  | folder => Location
  | enter _ => Unit
  | number => Nat
  | parent => Nat
  | clock => Nat
  | pause _ => Unit
  | send .. => Bool
  | react .. => Unit
  | reactions => List (Nat × Reaction)
  | caught => List Nat
  | wait _ => Waited
  | replace => Unit
  | leaveGroup => Unit
  | mask => Nat
  | setMask _ => Unit
  | sizeLimit => Option Nat
  | setSizeLimit _ => Unit
  | lock .. => Except FileFault Bool
  | ends => List (Nat × Entry)

inductive Activity
  | ended (ending : Ending)
  | ask (request : HostRequest) (next : request.Answer → Activity)
  /-- Another program begins beside it; the number of that one is the answer. -/
  | fork (child : Activity) (next : Nat → Activity)

def Process (α : Type) : Type := (α → Activity) → Activity

namespace Process

instance : Monad Process where
  pure value := fun next => next value
  bind first second := fun next => first fun value => second value next

def ask (request : HostRequest) : Process request.Answer := fun next => .ask request next

def finish {α : Type} (ending : Ending) : Process α := fun _ => .ended ending

def exit {α : Type} (status : Nat) : Process α := finish (.code (status % 256))

def activity (process : Process Nat) : Activity := process fun status => .ended (.code (status % 256))

def fork (child : Process Nat) : Process Nat := fun next => .fork child.activity next

def tree : Process FileTree := ask .tree

def folder : Process Location := ask .folder

def write (channel : Nat) (content : ByteArray) : Process (Except FileFault Unit) :=
  if content.isEmpty then pure (.ok ()) else ask (.write channel content)

def pieceSize : Nat := 65536

/-- Reads up to the end; the first argument bounds the number of reads. -/
def readOn (channel : Nat) : Nat → ByteArray → Process (Except FileFault ByteArray)
  | 0, gathered => pure (.ok gathered)
  | reads + 1, gathered => do
    match ← ask (.read channel pieceSize) with
    | .error fault => return .error fault
    | .ok piece => if piece.isEmpty then return .ok gathered else readOn channel reads (gathered ++ piece)

def manySteps : Nat := 1000000000

def readAll (channel : Nat) : Process (Except FileFault ByteArray) := readOn channel manySteps .empty

end Process

end Assay
