namespace GuardedSum

inductive ErrorKind where
  | addressInUse
  | addressNotAvailable
  | alreadyExists
  | argumentListTooLong
  | brokenPipe
  | connectionAborted
  | connectionRefused
  | connectionReset
  | crossesDevices
  | deadlock
  | directoryNotEmpty
  | executableFileBusy
  | fileTooLarge
  | filesystemLoop
  | hostUnreachable
  | inProgress
  | inputOutputError
  | interrupted
  | invalidData
  | invalidFilename
  | invalidInput
  | isDirectory
  | networkDown
  | networkUnreachable
  | notDirectory
  | notConnected
  | notFound
  | notSeekable
  | other
  | outOfMemory
  | permissionDenied
  | quotaExceeded
  | readOnlyFileSystem
  | resourceBusy
  | staleFileHandle
  | storageFull
  | timedOut
  | tooManyLinks
  | uncategorized
  | unexpectedEof
  | unsupported
  | wouldBlock
  | writeZero
  deriving DecidableEq

namespace ErrorKind

def name : ErrorKind → String
  | addressInUse => "AddrInUse"
  | addressNotAvailable => "AddrNotAvailable"
  | alreadyExists => "AlreadyExists"
  | argumentListTooLong => "ArgumentListTooLong"
  | brokenPipe => "BrokenPipe"
  | connectionAborted => "ConnectionAborted"
  | connectionRefused => "ConnectionRefused"
  | connectionReset => "ConnectionReset"
  | crossesDevices => "CrossesDevices"
  | deadlock => "Deadlock"
  | directoryNotEmpty => "DirectoryNotEmpty"
  | executableFileBusy => "ExecutableFileBusy"
  | fileTooLarge => "FileTooLarge"
  | filesystemLoop => "FilesystemLoop"
  | hostUnreachable => "HostUnreachable"
  | inProgress => "InProgress"
  | inputOutputError => "InputOutputError"
  | interrupted => "Interrupted"
  | invalidData => "InvalidData"
  | invalidFilename => "InvalidFilename"
  | invalidInput => "InvalidInput"
  | isDirectory => "IsADirectory"
  | networkDown => "NetworkDown"
  | networkUnreachable => "NetworkUnreachable"
  | notDirectory => "NotADirectory"
  | notConnected => "NotConnected"
  | notFound => "NotFound"
  | notSeekable => "NotSeekable"
  | other => "Other"
  | outOfMemory => "OutOfMemory"
  | permissionDenied => "PermissionDenied"
  | quotaExceeded => "QuotaExceeded"
  | readOnlyFileSystem => "ReadOnlyFilesystem"
  | resourceBusy => "ResourceBusy"
  | staleFileHandle => "StaleNetworkFileHandle"
  | storageFull => "StorageFull"
  | timedOut => "TimedOut"
  | tooManyLinks => "TooManyLinks"
  | uncategorized => "Uncategorized"
  | unexpectedEof => "UnexpectedEof"
  | unsupported => "Unsupported"
  | wouldBlock => "WouldBlock"
  | writeZero => "WriteZero"

-- What an error displays of which nothing but the kind is known.
def description : ErrorKind → String
  | addressInUse => "address in use"
  | addressNotAvailable => "address not available"
  | alreadyExists => "entity already exists"
  | argumentListTooLong => "argument list too long"
  | brokenPipe => "broken pipe"
  | connectionAborted => "connection aborted"
  | connectionRefused => "connection refused"
  | connectionReset => "connection reset"
  | crossesDevices => "cross-device link or rename"
  | deadlock => "deadlock"
  | directoryNotEmpty => "directory not empty"
  | executableFileBusy => "executable file busy"
  | fileTooLarge => "file too large"
  | filesystemLoop => "filesystem loop or indirection limit (e.g. symlink loop)"
  | hostUnreachable => "host unreachable"
  | inProgress => "in progress"
  | inputOutputError => "input/output error"
  | interrupted => "operation interrupted"
  | invalidData => "invalid data"
  | invalidFilename => "invalid filename"
  | invalidInput => "invalid input parameter"
  | isDirectory => "is a directory"
  | networkDown => "network down"
  | networkUnreachable => "network unreachable"
  | notDirectory => "not a directory"
  | notConnected => "not connected"
  | notFound => "entity not found"
  | notSeekable => "seek on unseekable file"
  | other => "other error"
  | outOfMemory => "out of memory"
  | permissionDenied => "permission denied"
  | quotaExceeded => "quota exceeded"
  | readOnlyFileSystem => "read-only filesystem or storage medium"
  | resourceBusy => "resource busy"
  | staleFileHandle => "stale network file handle"
  | storageFull => "no storage space"
  | timedOut => "timed out"
  | tooManyLinks => "too many links"
  | uncategorized => "uncategorized error"
  | unexpectedEof => "unexpected end of file"
  | unsupported => "unsupported"
  | wouldBlock => "operation would block"
  | writeZero => "write zero"

def all : List ErrorKind :=
  [.addressInUse, .addressNotAvailable, .alreadyExists, .argumentListTooLong, .brokenPipe,
   .connectionAborted, .connectionRefused, .connectionReset, .crossesDevices, .deadlock,
   .directoryNotEmpty, .executableFileBusy, .fileTooLarge, .filesystemLoop, .hostUnreachable,
   .inProgress, .inputOutputError, .interrupted, .invalidData, .invalidFilename, .invalidInput,
   .isDirectory, .networkDown, .networkUnreachable, .notDirectory, .notConnected, .notFound,
   .notSeekable, .other, .outOfMemory, .permissionDenied, .quotaExceeded, .readOnlyFileSystem,
   .resourceBusy, .staleFileHandle, .storageFull, .timedOut, .tooManyLinks, .uncategorized,
   .unexpectedEof, .unsupported, .wouldBlock, .writeZero]

def ofName? (s : String) : Option ErrorKind :=
  all.find? (·.name = s)

@[simp]
theorem ofName?_name (k : ErrorKind) : ofName? k.name = some k := by
  cases k <;> decide +kernel

end ErrorKind

end GuardedSum
