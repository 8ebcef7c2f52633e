/-!
Why a file operation fails.
-/

namespace Assay

inductive FileFault
  | notFound
  | alreadyExists
  | notAFolder
  | isAFolder
  | notEmpty
  | denied
  | tooManyLinks
  | nameTooLong
  | invalidName
  | notAProgram
  | notText
  | emptyPath
  | interrupted
  | badChannel
  | noSpace
  | brokenPipe
  | noDevice
  | notPermitted
  | sameFile
  | invalid
  | tooLarge
deriving DecidableEq, Repr, Inhabited

namespace FileFault

def message : FileFault → String
  | notFound => "No such file or directory"
  | alreadyExists => "File exists"
  | notAFolder => "Not a directory"
  | isAFolder => "Is a directory"
  | notEmpty => "Directory not empty"
  | denied => "Permission denied"
  | tooManyLinks => "Too many levels of symbolic links"
  | nameTooLong => "File name too long"
  | invalidName => "A path holds a null character"
  | notAProgram => "Exec format error"
  | notText => "The file is not valid UTF-8"
  | emptyPath => "The path is empty"
  | interrupted => "Interrupted system call"
  | badChannel => "Bad file descriptor"
  | noSpace => "No space left on device"
  | brokenPipe => "Broken pipe"
  | noDevice => "No such device or address"
  | notPermitted => "Operation not permitted"
  | sameFile => "The source and the target are the same file"
  | invalid => "Invalid argument"
  | tooLarge => "File too large"

end FileFault

end Assay
