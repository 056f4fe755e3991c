/-!
# Errors of the operating system

What a call on a transport can fail with: a kind alone, a kind with a text of its own, or a
numbered error of the system.
-/
namespace ChannelReactor

namespace IoError

inductive Kind where
  | notFound
  | permissionDenied
  | connectionRefused
  | connectionReset
  | connectionAborted
  | notConnected
  | addrInUse
  | brokenPipe
  | alreadyExists
  | wouldBlock
  | invalidInput
  | invalidData
  | timedOut
  | writeZero
  | interrupted
  | unsupported
  | unexpectedEof
  | outOfMemory
  | other
  | inputOutput
  | tooManyOpenFiles
  | networkUnreachable
  | uncategorized
deriving DecidableEq, Repr

namespace Kind

/-- The kinds that an error may be made of. -/
def makeable : List Kind :=
  [notFound, permissionDenied, connectionRefused, connectionReset, connectionAborted,
   notConnected, addrInUse, brokenPipe, alreadyExists, wouldBlock, invalidInput, invalidData,
   timedOut, writeZero, interrupted, unsupported, unexpectedEof, outOfMemory, other]

def name : Kind → String
  | notFound => "NotFound"
  | permissionDenied => "PermissionDenied"
  | connectionRefused => "ConnectionRefused"
  | connectionReset => "ConnectionReset"
  | connectionAborted => "ConnectionAborted"
  | notConnected => "NotConnected"
  | addrInUse => "AddrInUse"
  | brokenPipe => "BrokenPipe"
  | alreadyExists => "AlreadyExists"
  | wouldBlock => "WouldBlock"
  | invalidInput => "InvalidInput"
  | invalidData => "InvalidData"
  | timedOut => "TimedOut"
  | writeZero => "WriteZero"
  | interrupted => "Interrupted"
  | unsupported => "Unsupported"
  | unexpectedEof => "UnexpectedEof"
  | outOfMemory => "OutOfMemory"
  | other => "Other"
  | inputOutput => "InputOutputError"
  | tooManyOpenFiles => "TooManyOpenFiles"
  | networkUnreachable => "NetworkUnreachable"
  | uncategorized => "Uncategorized"

/-- The kind of a name; an unknown name is `other`. -/
def ofName (name : String) : Kind :=
  (makeable.find? fun kind => kind.name == name).getD other

/-- The text of an error that has only a kind. -/
def text : Kind → String
  | notFound => "entity not found"
  | permissionDenied => "permission denied"
  | connectionRefused => "connection refused"
  | connectionReset => "connection reset"
  | connectionAborted => "connection aborted"
  | notConnected => "not connected"
  | addrInUse => "address in use"
  | brokenPipe => "broken pipe"
  | alreadyExists => "entity already exists"
  | wouldBlock => "operation would block"
  | invalidInput => "invalid input parameter"
  | invalidData => "invalid data"
  | timedOut => "timed out"
  | writeZero => "write zero"
  | interrupted => "operation interrupted"
  | unsupported => "unsupported"
  | unexpectedEof => "unexpected end of file"
  | outOfMemory => "out of memory"
  | other => "other error"
  | inputOutput => "input/output error"
  | tooManyOpenFiles => "too many open files"
  | networkUnreachable => "network unreachable"
  | uncategorized => "uncategorized error"

end Kind

/-- The system's numbered errors: number, text and kind. -/
def systemTable : List (Nat × String × Kind) :=
  [(4, "Interrupted system call", .interrupted),
   (5, "Input/output error", .inputOutput),
   (9, "Bad file descriptor", .uncategorized),
   (11, "Resource temporarily unavailable", .wouldBlock),
   (12, "Cannot allocate memory", .outOfMemory),
   (13, "Permission denied", .permissionDenied),
   (22, "Invalid argument", .invalidInput),
   (24, "Too many open files", .tooManyOpenFiles),
   (32, "Broken pipe", .brokenPipe),
   (98, "Address already in use", .addrInUse),
   (101, "Network is unreachable", .networkUnreachable),
   (103, "Software caused connection abort", .connectionAborted),
   (104, "Connection reset by peer", .connectionReset),
   (107, "Transport endpoint is not connected", .notConnected),
   (110, "Connection timed out", .timedOut),
   (111, "Connection refused", .connectionRefused)]

end IoError

/-- An error of a call on a transport. -/
inductive IoError where
  | bare (kind : IoError.Kind)
  | described (kind : IoError.Kind) (text : String)
  | system (number : Nat)
deriving DecidableEq, Repr

namespace IoError

def kind : IoError → Kind
  | bare kind => kind
  | described kind _ => kind
  | system number =>
    match systemTable.lookup number with
    | some (_, kind) => kind
    | none => .uncategorized

/-- The text of an error; a numbered one ends in its number. -/
def text : IoError → String
  | bare kind => kind.text
  | described _ text => text
  | system number =>
    let description := match systemTable.lookup number with
      | some (text, _) => text
      | none => "Unknown error " ++ toString number
    description ++ " (os error " ++ toString number ++ ")"

/-- An error that says only that something failed. -/
def failure (text : String) : IoError := described .other text

end IoError

end ChannelReactor
