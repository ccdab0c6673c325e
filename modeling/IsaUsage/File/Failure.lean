namespace IsaUsage

/-!
# Reasons why a file operation or a process start fails

Most failures come from the operating system and carry its number; a few arise
before the system is asked. `Failure.message` is the text of each. The failures
that file operations run into here have names, and the others are known by their
numbers alone (`SystemFailure.number_ofNumber`).
-/

/-- Failures that the operating system reports. -/
inductive SystemFailure where
  | success
  | notPermitted
  | notFound
  | inputOutput
  | permissionDenied
  | busy
  | alreadyExists
  | notADirectory
  | isADirectory
  | noSpace
  | nameTooLong
  | unnamed (number : Int32)
  deriving DecidableEq, Repr

namespace SystemFailure

/-- The number of a failure. -/
def number : SystemFailure → Int32
  | .success => 0
  | .notPermitted => 1
  | .notFound => 2
  | .inputOutput => 5
  | .permissionDenied => 13
  | .busy => 16
  | .alreadyExists => 17
  | .notADirectory => 20
  | .isADirectory => 21
  | .noSpace => 28
  | .nameTooLong => 36
  | .unnamed number => number

/-- The descriptions of failures that have no name here, by number. -/
def unnamedDescriptions : List (Int32 × String) :=
  [(3, "No such process"),
    (4, "Interrupted system call"),
    (6, "No such device or address"),
    (7, "Argument list too long"),
    (8, "Exec format error"),
    (9, "Bad file descriptor"),
    (10, "No child processes"),
    (11, "Resource temporarily unavailable"),
    (12, "Cannot allocate memory"),
    (14, "Bad address"),
    (15, "Block device required"),
    (18, "Invalid cross-device link"),
    (19, "No such device"),
    (22, "Invalid argument"),
    (23, "Too many open files in system"),
    (24, "Too many open files"),
    (25, "Inappropriate ioctl for device"),
    (26, "Text file busy"),
    (27, "File too large"),
    (29, "Illegal seek"),
    (30, "Read-only file system"),
    (31, "Too many links"),
    (32, "Broken pipe"),
    (33, "Numerical argument out of domain"),
    (34, "Numerical result out of range"),
    (35, "Resource deadlock avoided"),
    (37, "No locks available"),
    (38, "Function not implemented"),
    (39, "Directory not empty"),
    (40, "Too many levels of symbolic links"),
    (42, "No message of desired type"),
    (43, "Identifier removed"),
    (44, "Channel number out of range"),
    (45, "Level 2 not synchronized"),
    (46, "Level 3 halted"),
    (47, "Level 3 reset"),
    (48, "Link number out of range"),
    (49, "Protocol driver not attached"),
    (50, "No CSI structure available"),
    (51, "Level 2 halted"),
    (52, "Invalid exchange"),
    (53, "Invalid request descriptor"),
    (54, "Exchange full"),
    (55, "No anode"),
    (56, "Invalid request code"),
    (57, "Invalid slot"),
    (59, "Bad font file format"),
    (60, "Device not a stream"),
    (61, "No data available"),
    (62, "Timer expired"),
    (63, "Out of streams resources"),
    (64, "Machine is not on the network"),
    (65, "Package not installed"),
    (66, "Object is remote"),
    (67, "Link has been severed"),
    (68, "Advertise error"),
    (69, "Srmount error"),
    (70, "Communication error on send"),
    (71, "Protocol error"),
    (72, "Multihop attempted"),
    (73, "RFS specific error"),
    (74, "Bad message"),
    (75, "Value too large for defined data type"),
    (76, "Name not unique on network"),
    (77, "File descriptor in bad state"),
    (78, "Remote address changed"),
    (79, "Can not access a needed shared library"),
    (80, "Accessing a corrupted shared library"),
    (81, ".lib section in a.out corrupted"),
    (82, "Attempting to link in too many shared libraries"),
    (83, "Cannot exec a shared library directly"),
    (84, "Invalid or incomplete multibyte or wide character"),
    (85, "Interrupted system call should be restarted"),
    (86, "Streams pipe error"),
    (87, "Too many users"),
    (88, "Socket operation on non-socket"),
    (89, "Destination address required"),
    (90, "Message too long"),
    (91, "Protocol wrong type for socket"),
    (92, "Protocol not available"),
    (93, "Protocol not supported"),
    (94, "Socket type not supported"),
    (95, "Operation not supported"),
    (96, "Protocol family not supported"),
    (97, "Address family not supported by protocol"),
    (98, "Address already in use"),
    (99, "Cannot assign requested address"),
    (100, "Network is down"),
    (101, "Network is unreachable"),
    (102, "Network dropped connection on reset"),
    (103, "Software caused connection abort"),
    (104, "Connection reset by peer"),
    (105, "No buffer space available"),
    (106, "Transport endpoint is already connected"),
    (107, "Transport endpoint is not connected"),
    (108, "Cannot send after transport endpoint shutdown"),
    (109, "Too many references: cannot splice"),
    (110, "Connection timed out"),
    (111, "Connection refused"),
    (112, "Host is down"),
    (113, "No route to host"),
    (114, "Operation already in progress"),
    (115, "Operation now in progress"),
    (116, "Stale file handle"),
    (117, "Structure needs cleaning"),
    (118, "Not a XENIX named type file"),
    (119, "No XENIX semaphores available"),
    (120, "Is a named type file"),
    (121, "Remote I/O error"),
    (122, "Disk quota exceeded"),
    (123, "No medium found"),
    (124, "Wrong medium type"),
    (125, "Operation canceled"),
    (126, "Required key not available"),
    (127, "Key has expired"),
    (128, "Key has been revoked"),
    (129, "Key was rejected by service"),
    (130, "Owner died"),
    (131, "State not recoverable"),
    (132, "Operation not possible due to RF-kill"),
    (133, "Memory page has hardware error")]

/-- The system's description of a failure; of an unknown one, its number. -/
def description : SystemFailure → String
  | .success => "Success"
  | .notPermitted => "Operation not permitted"
  | .notFound => "No such file or directory"
  | .inputOutput => "Input/output error"
  | .permissionDenied => "Permission denied"
  | .busy => "Device or resource busy"
  | .alreadyExists => "File exists"
  | .notADirectory => "Not a directory"
  | .isADirectory => "Is a directory"
  | .noSpace => "No space left on device"
  | .nameTooLong => "File name too long"
  | .unnamed number =>
      match unnamedDescriptions.lookup number with
      | some description => description
      | none => "Unknown error " ++ toString number.toInt

/-- The failures that have a name, each once. -/
def named : List SystemFailure :=
  [.success, .notPermitted, .notFound, .inputOutput, .permissionDenied, .busy,
    .alreadyExists, .notADirectory, .isADirectory, .noSpace, .nameTooLong]

/-- The failure with a given number. -/
def ofNumber (number : Int32) : SystemFailure :=
  match named.find? fun failure => failure.number == number with
  | some failure => failure
  | none => .unnamed number

/-- The failure with a given number has that number. -/
theorem number_ofNumber (wanted : Int32) :
    (ofNumber wanted).number = wanted := by
  unfold ofNumber
  cases found : named.find? fun failure => failure.number == wanted with
  | none =>
      rfl
  | some failure =>
      have same := List.find?_some found
      simpa using same

/-- The number of a named failure finds it again. -/
theorem ofNumber_number
    {failure : SystemFailure}
    (isNamed : failure ∈ named) :
    ofNumber failure.number = failure := by
  cases failure with
  | unnamed number =>
      simp [named] at isNamed
  | _ =>
      rfl

end SystemFailure

/-- General kinds of failure, for failures without a number. -/
inductive FailureKind where
  | notFound
  | permissionDenied
  | alreadyExists
  | invalidInput
  | invalidData
  | unexpectedEnd
  | brokenPipe
  | timedOut
  | interrupted
  | writeZero
  | other
  deriving DecidableEq, Repr

/-- The description of a kind of failure. -/
def FailureKind.description : FailureKind → String
  | .notFound => "entity not found"
  | .permissionDenied => "permission denied"
  | .alreadyExists => "entity already exists"
  | .invalidInput => "invalid input parameter"
  | .invalidData => "invalid data"
  | .unexpectedEnd => "unexpected end of file"
  | .brokenPipe => "broken pipe"
  | .timedOut => "timed out"
  | .interrupted => "operation interrupted"
  | .writeZero => "write zero"
  | .other => "other error"

/-- Why a file operation or a process start failed. -/
inductive Failure where
  | system (failure : SystemFailure)
  | ofKind (kind : FailureKind)
  | described (text : String)
  | nulInPath
  | nulInArgument
  | notUtf8
  deriving DecidableEq, Repr

/-- The text of a failure. -/
def Failure.message : Failure → String
  | .system failure =>
      failure.description ++ " (os error " ++
        toString failure.number.toInt ++ ")"
  | .ofKind kind => kind.description
  | .described text => text
  | .nulInPath => "file name contained an unexpected NUL byte"
  | .nulInArgument => "nul byte found in provided data"
  | .notUtf8 => "stream did not contain valid UTF-8"

end IsaUsage
