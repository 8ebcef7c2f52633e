import Assay.Host.Basic

/-!
How the host answers the requests of programs.
-/

namespace Assay

/-- What came of a request: an answer, or none while the task has to wait; and the task, unless a
signal ended it. -/
structure Reply (request : HostRequest) where
  answer : Option request.Answer
  task : Option Task
  host : Host

namespace Host

def pipeLimit : Nat := 65536

section

variable {request : HostRequest}

def reply (task : Task) (host : Host) (answer : request.Answer) : Reply request :=
  { answer := some answer, task := some task, host }

def later (task : Task) (host : Host) : Reply request :=
  { answer := none, task := some task, host }

end

def zeros (size : Nat) : ByteArray := ByteArray.mk (Array.replicate size 0)

def readStream (host : Host) (id size : Nat) : Option (Except FileFault ByteArray) × Host :=
  match host.streams.lookup id with
  | none => (some (.error .badChannel), host)
  | some (.file serial position appends) =>
    let content := host.contentOf serial
    let piece := content.extract position (position + size)
    (some (.ok piece), host.setStream id (.file serial (position + piece.size) appends))
  | some (.pipe content) =>
    if content.isEmpty then
      if host.hasWriter id then (none, host) else (some (.ok .empty), host)
    else
      (some (.ok (content.extract 0 size)), host.setStream id (.pipe (content.extract size content.size)))
  | some .folder => (some (.error .isAFolder), host)
  | some (.device .zero) | some (.device .full) => (some (.ok (zeros size)), host)
  | some (.device _) => (some (.ok .empty), host)

def read (task : Task) (host : Host) (number size : Nat) : Reply (.read number size) :=
  match task.channel? number with
  | none => reply task host (.error .badChannel)
  | some channel =>
    if channel.readable then
      let present := { host with tasks := task :: host.tasks }
      match readStream present channel.stream size with
      | (none, _) => later task host
      | (some result, after) => reply task { after with tasks := host.tasks } result
    else reply task host (.error .badChannel)

def breakPipe (task : Task) (host : Host) {number : Nat} {content : ByteArray} :
    Reply (.write number content) :=
  match task.receive Signal.pipe with
  | some left => { answer := some (.error .brokenPipe), task := some left, host }
  | none => { answer := none, task := none, host := host.bury task (.signal Signal.pipe) }

def outgrow (task : Task) (host : Host) {number : Nat} {content : ByteArray} :
    Reply (.write number content) :=
  match task.receive Signal.fileSize with
  | some left => { answer := some (.error .tooLarge), task := some left, host }
  | none => { answer := none, task := none, host := host.bury task (.signal Signal.fileSize) }

def write (task : Task) (host : Host) (number : Nat) (content : ByteArray) :
    Reply (.write number content) :=
  match task.channel? number with
  | none => reply task host (.error .badChannel)
  | some channel =>
    if channel.writable then
      match host.streams.lookup channel.stream with
      | none | some .folder => reply task host (.error .badChannel)
      | some (.file serial position appends) =>
        let old := host.contentOf serial
        let start := if appends then old.size else position
        let room := (task.sizeLimit.map fun limit => limit - start).getD content.size
        let fitting := content.extract 0 room
        let moved := host.setStream channel.stream (.file serial (start + fitting.size) appends)
        let written := if fitting.isEmpty then moved else moved.setContent serial (overwrite old start fitting)
        if fitting.size = content.size then reply task written (.ok ()) else outgrow task written
      | some (.pipe held) =>
        if !({ host with tasks := task :: host.tasks }.hasReader channel.stream) then breakPipe task host
        else if pipeLimit ≤ held.size then later task host
        else reply task (host.setStream channel.stream (.pipe (held ++ content))) (.ok ())
      | some (.device .full) => reply task host (.error .noSpace)
      | some (.device _) => reply task host (.ok ())
    else reply task host (.error .badChannel)

def ends (mode : OpenMode) (stream : Nat) : Channel where
  stream
  readable := mode = .read || mode = .readWrite
  writable := mode ≠ .read

def emptied (host : Host) (mode : OpenMode) (serial : Nat) : Host :=
  if mode = .write then host.setContent serial .empty else host

def openPath (task : Task) (host : Host) (path : Path) (mode : OpenMode) :
    Except FileFault (Channel × Host) :=
  let opened := fun (present : Host) (stream : Stream) =>
    let (id, after) := present.openStream stream
    (ends mode id, after)
  let file := fun (present : Host) (serial : Nat) =>
    opened (emptied present mode serial) (.file serial 0 (mode = .append))
  match host.tree.locate task.folder true path with
  | .error fault => .error fault
  | .ok (.present _ (.file serial _ _)) => .ok (file host serial)
  | .ok (.present _ .folder) => if mode = .read then .ok (opened host .folder) else .error .isAFolder
  | .ok (.present _ (.link _)) => .error .tooManyLinks
  | .ok (.present _ (.device .terminal)) | .ok (.present _ (.device (.pipe _))) => .error .noDevice
  | .ok (.present _ (.device (.channel number))) =>
    match task.channel? number with
    | none => .error .notFound
    | some channel =>
      match host.streams.lookup channel.stream with
      | some (.file serial _ _) => .ok (file host serial)
      | some (.pipe _) => .ok (ends mode channel.stream, host)
      | some stream => .ok (opened host stream)
      | none => .error .noDevice
  | .ok (.present _ (.device kind)) => .ok (opened host (.device kind))
  | .ok (.vacant _ true) => if mode = .read then .error .notFound else .error .isAFolder
  | .ok (.vacant location false) =>
    if mode = .read then .error .notFound
    else .ok (file { host with tree := host.tree.putFile location .empty false } host.tree.nextSerial)

def namedStream (host : Host) (serial : Nat) : Nat × Host :=
  match (host.named.lookup serial).filter fun id => (host.streams.lookup id).isSome with
  | some id => (id, host)
  | none =>
    let (id, after) := host.openStream (.pipe .empty)
    (id, { after with named := (serial, id) :: after.named.filter (·.1 ≠ serial) })

def openNamed (task : Task) (host : Host) (path : Path) (mode : OpenMode) (number id : Nat) (admitted : Bool) :
    Reply (.openFile path mode number) :=
  let channel := ends mode id
  let ready : Task := { task with channels := task.channels.put number channel, opening := none }
  let present : Host := { host with tasks := task :: host.tasks }
  let met := mode = .readWrite || (if channel.readable then present.hasWriter id else present.hasReader id)
  let admitting := fun other : Task =>
    match other.opening with
    | some (wanted, _) => if wanted = id then { other with opening := some (id, true) } else other
    | none => other
  if admitted || met then reply ready { host with tasks := host.tasks.map admitting } (.ok ())
  else later { ready with opening := some (id, false) } host

def pipeAt? (task : Task) (host : Host) (path : Path) : Option (Nat × Bool × Host) :=
  match task.opening with
  | some (id, admitted) => some (id, admitted, host)
  | none =>
    match host.tree.locate task.folder true path with
    | .ok (.present _ (.device (.pipe serial))) =>
      let (id, after) := namedStream host serial
      some (id, false, after)
    | _ => none

def openFile (task : Task) (host : Host) (path : Path) (mode : OpenMode) (number : Nat) :
    Reply (.openFile path mode number) :=
  match pipeAt? task host path with
  | some (id, admitted, after) => openNamed task after path mode number id admitted
  | none =>
    match openPath task host path mode with
    | .error fault => reply task host (.error fault)
    | .ok (channel, after) =>
      reply { task with channels := task.channels.put number channel } after (.ok ())

def addressed (target : Int) (group : Nat) (task : Task) : Bool :=
  if target = 0 then task.group = group
  else if target = -1 then true
  else if target < 0 then (task.group : Int) = -target
  else (task.number : Int) = target

def send (task : Task) (host : Host) (target : Int) (signal : Nat) : Reply (.send target signal) :=
  let reached := (task :: host.tasks).filter (addressed target task.group)
  if reached.isEmpty then reply task host (host.endings.any fun ended => (ended.number : Int) = target)
  else if signal = 0 then reply task host true
  else
    let chosen := addressed target task.group
    let others := host.tasks.filterMap fun other => if chosen other then other.receive signal else some other
    let dying := host.tasks.filter fun other => chosen other && (other.receive signal).isNone
    let buried := dying.foldl (fun left other => left.bury other (.signal signal))
      { host with tasks := task :: others }
    let left := { buried with tasks := buried.tasks.filter (·.number ≠ task.number) }
    match if chosen task then task.receive signal else some task with
    | some alive => reply alive left true
    | none => { answer := none, task := none, host := left.bury task (.signal signal) }

def wait (task : Task) (host : Host) (awaited : Awaited) : Reply (.wait awaited) :=
  let meant := fun number : Nat => (awaited.numbers.map (·.contains number)).getD true
  match host.endings.find? fun ended => ended.parent = task.number && meant ended.number with
  | some ended =>
    reply task { host with endings := host.endings.filter (·.number ≠ ended.number) }
      (.ended ended.number ended.ending)
  | none =>
    if !host.tasks.any fun other => other.parent = task.number && meant other.number then
      reply task host .nobody
    else if awaited.interruptible && !task.caught.isEmpty then reply task host .interrupted
    else if awaited.looksOnly then reply task host .busy
    else later task host

def standing? (host : Host) (channel : Channel) : Option Standing :=
  match host.streams.lookup channel.stream with
  | some (.file serial position appends) =>
    some { serial, position, size := (host.contentOf serial).size, appends }
  | _ => none

/-- Locks the file that a channel leads to, if others leave room for it, or gives a lock back. -/
def lock (task : Task) (host : Host) (number : Nat) (alone : Option Bool) : Reply (.lock number alone) :=
  match task.channel? number with
  | none => reply task host (.error .badChannel)
  | some channel =>
    match host.streams.lookup channel.stream with
    | some (.file serial _ _) =>
      let others := host.locks.filter fun (file, stream, _) => !(file = serial && stream = channel.stream)
      match alone with
      | none => reply task { host with locks := others } (.ok true)
      | some wanted =>
        if others.any fun (file, _, theirs) => file = serial && (wanted || theirs) then reply task host (.ok false)
        else reply task { host with locks := (serial, channel.stream, wanted) :: others } (.ok true)
    | _ => reply task host (.ok true)

def endOf (host : Host) (channel : Channel) : Option Entry :=
  match host.streams.lookup channel.stream with
  | some (.file serial _ _) =>
    some (((host.tree.entries.find? fun item => match item.2 with
      | .file other _ _ => other = serial
      | _ => false).map Prod.snd).getD (.file serial (host.contentOf serial) false))
  | some (.pipe _) => some (.device (.pipe channel.stream))
  | some .folder => some .folder
  | some (.device kind) => some (.device kind)
  | none => none

/-- Numbers from here on belong to a script itself and are closed when it becomes another program. -/
def asideFrom : Nat := 1000

def giveBack (host : Host) (channel : Channel) (count : Nat) : Host :=
  match host.streams.lookup channel.stream with
  | some (.file serial position appends) =>
    host.setStream channel.stream (.file serial (position - count) appends)
  | _ => host

/-- Answers a request of a task. The host knows only the other tasks, and its files are at the time of the
request. -/
def answer (task : Task) (host : Host) : (request : HostRequest) → Reply request
  | .read number size => read task host number size
  | .write number content => write task host number content
  | .openFile path mode number => openFile task host path mode number
  | .pipe =>
    let (id, after) := host.openStream (.pipe .empty)
    reply { task with made := id :: task.made } after
      ({ stream := id, readable := true }, { stream := id, writable := true })
  | .channels => reply task host task.channels
  | .setChannels channels => reply { task with channels, made := [] } (host.forget channels) ()
  | .standing number => reply task host ((task.channel? number).bind host.standing?)
  | .giveBack number count =>
    match task.channel? number with
    | some channel => reply task (host.giveBack channel count) ()
    | none => reply task host ()
  | .tree => reply task host host.tree
  | .change operation =>
    match operation host.tree with
    | .ok tree => reply (task.within tree) (host.withTree tree) (.ok ())
    | .error fault => reply task host (.error fault)
  | .move source target =>
    let cleared := host.tree.removeBelow target
    let moved := fun other : Task =>
      if source.isPrefixOf other.folder then
        { other with folder := target ++ other.folder.drop source.length }
      else other.within cleared
    let others := host.tasks.map moved
    reply (moved task) { host.withTree (host.tree.moveBelow source target) with tasks := others } ()
  | .folder => reply task host task.folder
  | .enter folder => reply { task with folder } host ()
  | .number => reply task host task.number
  | .parent => reply task host task.parent
  | .clock => reply task host host.clock
  | .pause _ => reply task host ()
  | .send target signal => send task host target signal
  | .react signal reaction =>
    reply { task with reactions := (signal, reaction) :: task.reactions.filter (·.1 ≠ signal) } host ()
  | .reactions => reply task host task.reactions
  | .caught => reply { task with caught := [] } host task.caught
  | .wait awaited => wait task host awaited
  | .replace =>
    let channels := task.channels.filter (·.1 < asideFrom)
    reply { task with channels, reactions := task.reactions.filter (·.2 ≠ .caught), caught := [] }
      (host.forget channels) ()
  | .leaveGroup => reply { task with group := task.number } host ()
  | .mask => reply task host task.mask
  | .setMask mask => reply { task with mask } host ()
  | .sizeLimit => reply task host task.sizeLimit
  | .setSizeLimit sizeLimit => reply { task with sizeLimit } host ()
  | .lock number alone => lock task host number alone
  | .ends =>
    reply task host (task.channels.filterMap fun (number, channel) =>
      (host.endOf channel).map fun entry => (number, entry))

def stirs : HostRequest → Bool
  | .read .. | .write .. | .setChannels _ | .send .. | .openFile .. | .replace => true
  | _ => false

def cost : HostRequest → Nat
  | .pause span => span
  | .replace => 400
  | _ => 1

def forkDelay : Nat := 40

def parentDelay : Nat := 100

def wakeDelay : Nat := 60

end Host

end Assay
