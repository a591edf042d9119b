/-!
# Status codes

The archive answers every call with a signed 32-bit code. Zero is success and the other codes
it documents have a symbolic name and, where a caller has something to do about them, a
`Status.Kind`. Any other code is legal as well and is carried along unchanged, so a `Status`
is the code itself and the names are a table beside it.
-/

set_option autoImplicit false

namespace TapeRecall

/-- A code with which the archive answers a call. -/
structure Status where
  code : Int32
deriving DecidableEq

namespace Status

/-- What a code means to a caller that has to react to it. -/
inductive Kind where
  /-- The credentials were refused while a session was being set up. -/
  | credentialRejected
  /-- No object has that name. -/
  | notFound
  /-- Permission denied, usually because a session ran out. -/
  | accessDenied
  /-- The archive cannot be reached or the file is locked. -/
  | unavailable
  /-- The name is that of a directory. -/
  | isDirectory
  /-- The disk tier has no room to recall into. -/
  | noSpace
  /-- Anything else, success included. -/
  | other
deriving DecidableEq

/-- A documented code. -/
structure Documented where
  code : Int32
  name : String
  kind : Kind

/-- The documented codes. No code and no name occurs twice. -/
def documented : List Documented :=
  [⟨0, "NOERROR", .other⟩,
   ⟨-1, "EPERM", .credentialRejected⟩,
   ⟨-2, "ENOENT", .notFound⟩,
   ⟨-5, "EIO", .unavailable⟩,
   ⟨-9, "EBADF", .other⟩,
   ⟨-13, "EACCES", .accessDenied⟩,
   ⟨-14, "EFAULT", .other⟩,
   ⟨-21, "EISDIR", .isDirectory⟩,
   ⟨-22, "EINVAL", .other⟩,
   ⟨-24, "EMFILE", .other⟩,
   ⟨-28, "ENOSPACE", .noSpace⟩,
   ⟨-50, "ECONN", .other⟩,
   ⟨-78, "ETIMEDOUT", .other⟩]

/-- No object has that name. -/
def noEntry : Status := ⟨-2⟩

/-- The handle is not an open one. -/
def badHandle : Status := ⟨-9⟩

/-- The name is that of a directory. -/
def directory : Status := ⟨-21⟩

/-- The entry of a code in the table of documented codes. -/
def entry? (s : Status) : Option Documented :=
  documented.find? fun d => d.code == s.code

/-- The symbolic name of a documented code. -/
def name? (s : Status) : Option String :=
  s.entry?.map Documented.name

/-- What the code means to a caller; a code outside the table means nothing in particular. -/
def kind (s : Status) : Kind :=
  (s.entry?.map Documented.kind).getD .other

/-- Only zero is success: a positive code is not. -/
def isSuccess (s : Status) : Bool :=
  s.code == 0

/-- The written form: the name with the code in parentheses, or the bare code where there is
no name. The code is always part of it, so that no two codes look alike. -/
def text (s : Status) : String :=
  match s.name? with
  | some name => name ++ " (" ++ s.code.toInt.repr ++ ")"
  | none => s.code.toInt.repr

/-- Statuses in ascending order of their codes. -/
def sort (ss : List Status) : List Status :=
  ss.mergeSort fun a b => a.code ≤ b.code

end Status

end TapeRecall
