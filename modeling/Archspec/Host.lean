import Archspec.Lib.Program
import Archspec.View

/-!
# The machine the collectors ask

`Primitive` lists what the library asks of the operating system: the file-system primitives, with
the path string they are given, and the facts of the running host.  `Primitive.Reply` is the type
of the answers.  A collector is a `Collect` program over these calls, and an `Env` answers every
call as a function of the call.

The model is the Linux build: the `_WIN32` branches of the source are left out.
-/

namespace Archspec

open Lib

/-- The errors of `std::error_code` that the library tells apart. -/
inductive Errc where
  | noSuchFileOrDirectory
  | notADirectory
  | permissionDenied
  | operationNotPermitted
  | other
  deriving DecidableEq

/-- The outcome of `std::filesystem::exists`: when it is false, the error code it leaves. -/
inductive Existence where
  | yes
  | no (error : Option Errc)
  deriving DecidableEq

/-- An opened input stream: the bytes it delivers, and whether a read error sets its bad bit while
the whole buffer is copied, or while the first line is read. -/
structure OpenFile where
  content : Bytes
  badCopy : Bool := false
  badLine : Bool := false
  size_lt : content.length < 2 ^ 63 := by decide

/-- A name in a directory listing: a single path component other than `.` and `..`. -/
structure EntryName where
  name : Bytes
  ne_nil : name ≠ [] := by decide
  no_slash : 47 ∉ name := by decide
  ne_dot : name ≠ "." := by decide
  ne_dots : name ≠ ".." := by decide

/-- What a directory iterator delivers before its end or its first error. -/
structure Listing where
  entries : List EntryName
  length_lt : entries.length < 2 ^ 63 := by decide

/-- The strings of `uname`. -/
structure Utsname where
  sysname : Bytes
  nodename : Bytes
  release : Bytes
  version : Bytes
  machine : Bytes

/-- The address family of an interface, as far as it matters. -/
inductive AddressFamily where
  | inet
  | inet6
  | other
  deriving DecidableEq

/-- One element of the list of `getifaddrs`.  `address` is none when `ifa_addr` is null, and holds
the family and the text `inet_ntop` gives, if any, otherwise. -/
structure InterfaceAddress where
  name : Bytes
  address : Option (AddressFamily × Option Bytes)

/-- The values of `errno` after `perf_event_open` that the library tells apart. -/
inductive PerfError where
  | eacces
  | eperm
  | enodev
  | enoent
  | eopnotsupp
  | einval
  | other
  deriving DecidableEq

/-- The outcome of `perf_event_open`. -/
inductive PerfOpen where
  | opened
  | failed (errno : PerfError)
  deriving DecidableEq

/-- The facts fixed when the library is compiled. -/
structure Target where
  pointerBytes : UInt64
  littleEndian : Bool

/-- What the library asks of the system. -/
inductive Primitive where
  /-- `std::ifstream(path)` -/
  | openFile (path : Bytes)
  /-- `std::filesystem::exists(path)` -/
  | pathExists (path : Bytes)
  /-- `std::filesystem::is_directory(path)` -/
  | isDirectory (path : Bytes)
  /-- `std::filesystem::directory_iterator(path)` -/
  | listDirectory (path : Bytes)
  /-- `std::filesystem::read_symlink(path)` -/
  | readSymlink (path : Bytes)
  /-- `access(path, R_OK | W_OK)` -/
  | access (path : Bytes)
  | uname
  /-- `sysconf(_SC_PAGESIZE)` -/
  | pageSize
  | hardwareConcurrency
  | getifaddrs
  /-- `perf_event_open` for the hardware counter `config` -/
  | perfEventOpen (config : UInt64)
  | target

/-- The answers to a primitive; none stands for a failed call. -/
@[reducible] def Primitive.Reply : Primitive → Type
  | openFile _ => Option OpenFile
  | pathExists _ => Existence
  | isDirectory _ => Bool
  | listDirectory _ => Option Listing
  | readSymlink _ => Option Bytes
  | access _ => Bool
  | uname => Option Utsname
  | pageSize => Int64
  | hardwareConcurrency => UInt32
  | getifaddrs => Option (List InterfaceAddress)
  | perfEventOpen _ => PerfOpen
  | target => Target

/-- The path string given to a file-system primitive. -/
def Primitive.path? : Primitive → Option Bytes
  | openFile p | pathExists p | isDirectory p | listDirectory p | readSymlink p | access p => some p
  | _ => none

/-- A program over the primitives. -/
abbrev Collect := Program Primitive.Reply

/-- An environment: a fixed answer for every call. -/
abbrev Env := (call : Primitive) → call.Reply

/-- The environment in which every call fails and nothing exists. -/
def Env.failing : Env
  | .openFile _ => none
  | .pathExists _ => .no none
  | .isDirectory _ => false
  | .listDirectory _ => none
  | .readSymlink _ => none
  | .access _ => false
  | .uname => none
  | .pageSize => -1
  | .hardwareConcurrency => 0
  | .getifaddrs => none
  | .perfEventOpen _ => .failed .other
  | .target => ⟨8, true⟩

/-- The environment in which the files of a table exist and nothing else does. -/
def Env.ofFiles (files : List (Bytes × OpenFile)) : Env
  | .openFile path => files.lookup path
  | .pathExists path => if (files.lookup path).isSome then .yes else .no none
  | call => Env.failing call

/-- The environment of a table of files, one of directories and one of symbolic links. -/
def Env.ofTree (files : List (Bytes × OpenFile)) (directories : List (Bytes × Listing))
    (links : List (Bytes × Bytes)) : Env
  | .openFile path => files.lookup path
  | .pathExists path =>
    if (files.lookup path).isSome || (directories.lookup path).isSome then .yes else .no none
  | .isDirectory path => (directories.lookup path).isSome
  | .listDirectory path => directories.lookup path
  | .readSymlink path => links.lookup path
  | call => Env.failing call

/-- Make a call. -/
abbrev ask (call : Primitive) : Collect call.Reply := Program.call call

end Archspec
