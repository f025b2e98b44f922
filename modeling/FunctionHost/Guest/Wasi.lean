import FunctionHost.Guest.Region
import FunctionHost.Wasm.Store
/-!
# The system interface

The functions of the WASI snapshot that guests may import.  A guest has no arguments, no
environment and no files: it can write to the standard streams and exit.  All other functions can
be imported but answer that they are not there.
-/
namespace FunctionHost
namespace Wasi

open Wasm (ValueType FuncType Word)

/-- The module that guests import the functions from. -/
def space : String := "wasi_snapshot_preview1"

/-- The types of the functions that answer with an error number: the letters of the parameters,
`i` for 32 bits and `l` for 64. -/
def functions : List (String × String) := [
  ("args_get", "ii"), ("args_sizes_get", "ii"), ("environ_get", "ii"),
  ("environ_sizes_get", "ii"), ("clock_res_get", "ii"), ("clock_time_get", "ili"),
  ("fd_advise", "illi"), ("fd_allocate", "ill"), ("fd_close", "i"), ("fd_datasync", "i"),
  ("fd_fdstat_get", "ii"), ("fd_fdstat_set_flags", "ii"), ("fd_fdstat_set_rights", "ill"),
  ("fd_filestat_get", "ii"), ("fd_filestat_set_size", "il"), ("fd_filestat_set_times", "illi"),
  ("fd_pread", "iiili"), ("fd_prestat_get", "ii"), ("fd_prestat_dir_name", "iii"),
  ("fd_pwrite", "iiili"), ("fd_read", "iiii"), ("fd_readdir", "iiili"), ("fd_renumber", "ii"),
  ("fd_seek", "ilii"), ("fd_sync", "i"), ("fd_tell", "ii"), ("fd_write", "iiii"),
  ("path_create_directory", "iii"), ("path_filestat_get", "iiiii"),
  ("path_filestat_set_times", "iiiilli"), ("path_link", "iiiiiii"),
  ("path_open", "iiiiillii"), ("path_readlink", "iiiiii"), ("path_remove_directory", "iii"),
  ("path_rename", "iiiiii"), ("path_symlink", "iiiii"), ("path_unlink_file", "iii"),
  ("poll_oneoff", "iiii"), ("proc_raise", "i"), ("sched_yield", ""), ("random_get", "ii"),
  ("sock_accept", "iii"), ("sock_recv", "iiiiii"), ("sock_send", "iiiii"),
  ("sock_shutdown", "ii")]

/-- The type of a parameter letter. -/
def parameter (letter : Char) : ValueType := if letter = 'l' then .i64 else .i32

/-- The type of a function of the interface. -/
def type? (name : String) : Option FuncType :=
  if name = "proc_exit" then some ⟨[.i32], []⟩
  else
    (functions.find? (·.1 = name)).map fun (_, letters) =>
      ⟨letters.toList.map parameter, [.i32]⟩

/-- **What a function of the interface does.** -/
inductive Effect where
  /-- It answers with an error number, zero if all went well. -/
  | answer (memory : Wasm.Memory) (error : Word)
  /-- It answers and writes to a standard stream. -/
  | print (memory : Wasm.Memory) (stream : Nat) (bytes : Bytes)
  /-- The guest exits. -/
  | exit (status : Nat)
  /-- The guest is stopped for what it did. -/
  | refuse (reason : String)

/-- The error number for a stream that is not open for the purpose. -/
def badStream : Word := 8

/-- The error number for a function that is not there. -/
def notThere : Word := 52

/-- The refusal of a pointer. -/
def outOfBounds (start len : Nat) : Effect :=
  .refuse ("Pointer out of bounds: Region \x7b start: " ++ toString start ++ ", len: "
    ++ toString len ++ " \x7d")

/-- Writes a zero of 32 bits to each of two pointers. -/
def zeroSizes (m : Wasm.Memory) (first second : Word) : Effect :=
  if !m.fits first.toNat 4 then outOfBounds first.toNat 4
  else if !m.fits second.toNat 4 then outOfBounds second.toNat 4
  else .answer ((m.write first.toNat 4 0).write second.toNat 4 0) 0

/-- The first non-empty one of a row of buffers: where it starts and how long it is. -/
def firstBuffer (m : Wasm.Memory) (vectors : Nat) : Nat → Nat × Nat
  | 0 => (0, 0)
  | count + 1 =>
    let start := (m.read vectors 4).toNat
    let len := (m.read (vectors + 4) 4).toNat
    if len = 0 then firstBuffer m (vectors + 8) count else (start, len)

/-- Writes the first non-empty buffer of a row to a standard stream. -/
def writeStream (m : Wasm.Memory) (stream vectors count written : Word) : Effect :=
  if stream != 1 && stream != 2 then .answer m badStream
  else if !m.fits vectors.toNat (8 * count.toNat) then
    outOfBounds vectors.toNat (8 * count.toNat)
  else
    let (start, len) := firstBuffer m vectors.toNat count.toNat
    if !m.fits start len then outOfBounds start len
    else if !m.fits written.toNat 4 then outOfBounds written.toNat 4
    else
      .print (m.write written.toNat 4 (UInt64.ofNat len)) stream.toNat (m.region start len)

/-- **Calling a function of the interface**, given the guest's memory. -/
def call (name : String) (args : List Word) (m : Wasm.Memory) : Effect :=
  match name, args with
  | "args_get", _ => .answer m 0
  | "environ_get", _ => .answer m 0
  | "sched_yield", _ => .answer m 0
  | "args_sizes_get", [first, second] => zeroSizes m first second
  | "environ_sizes_get", [first, second] => zeroSizes m first second
  | "fd_write", [stream, vectors, count, written] => writeStream m stream vectors count written
  | "fd_prestat_get", _ => .answer m badStream
  | "proc_exit", [status] =>
    if status.toNat < 126 then .exit status.toNat
    else .refuse "exit with invalid exit status outside of [0..126)"
  | _, _ => .answer m notThere

end Wasi
end FunctionHost
