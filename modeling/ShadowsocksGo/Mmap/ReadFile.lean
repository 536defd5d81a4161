import Mathlib.Data.List.Basic

/-! # `readFile`: mapping a file read-only

`readFile` maps a file with `CreateFileMapping` and `MapViewOfFile` and checks with
`VirtualQuery` that the view covers `size` bytes. The Windows calls are external: `WinApi` gives
the outcome of each, and the model returns the calls made, the deferred `CloseHandle` last. -/

namespace ShadowsocksGo
namespace Mmap

/-- The outcome of each Windows call `readFile` makes: its value, or its error number. -/
structure WinApi where
  createFileMapping : Except ℕ ℕ
  mapViewOfFile : ℕ → Except ℕ ℕ
  virtualQuery : ℕ → Except ℕ ℕ

/-- A Windows call, with the value it returned, `none` when it failed. -/
inductive WinCall
  | createFileMapping (handle : Option ℕ)
  | mapViewOfFile (handle : ℕ) (addr : Option ℕ)
  | virtualQuery (addr : ℕ) (regionSize : Option ℕ)
  | unmapViewOfFile (addr : ℕ)
  | closeHandle (handle : ℕ)
  deriving DecidableEq, Repr

/-- The errors `readFile` returns: `os.NewSyscallError(name, err)`, and `ErrFileTooLarge`. -/
inductive Error
  | syscall (name : String) (errno : ℕ)
  | fileTooLarge
  deriving DecidableEq, Repr

/-- `readFile(f, size)`: the calls it makes, in order, the deferred `CloseHandle` last; and the
view's address with the calls its returned `close` makes, or the error. -/
def readFile (w : WinApi) (size : ℕ) : List WinCall × Except Error (ℕ × List WinCall) :=
  match w.createFileMapping with
  | .error e => ([.createFileMapping none], .error (.syscall "CreateFileMappingW" e))
  | .ok handle =>
    let deferred := [WinCall.closeHandle handle]
    match w.mapViewOfFile handle with
    | .error e =>
      ([.createFileMapping (some handle), .mapViewOfFile handle none] ++ deferred,
        .error (.syscall "MapViewOfFile" e))
    | .ok addr =>
      let calls := [WinCall.createFileMapping (some handle), .mapViewOfFile handle (some addr)]
      match w.virtualQuery addr with
      | .error e =>
        (calls ++ [.virtualQuery addr none, .unmapViewOfFile addr] ++ deferred,
          .error (.syscall "VirtualQuery" e))
      | .ok regionSize =>
        if regionSize < size then
          (calls ++ [.virtualQuery addr (some regionSize), .unmapViewOfFile addr] ++ deferred,
            .error .fileTooLarge)
        else (calls ++ [.virtualQuery addr (some regionSize)] ++ deferred,
          .ok (addr, [.unmapViewOfFile addr]))

example : (readFile ⟨.ok 3, fun _ => .ok 7, fun _ => .error 5⟩ 10).1 =
    [.createFileMapping (some 3), .mapViewOfFile 3 (some 7), .virtualQuery 7 none,
      .unmapViewOfFile 7, .closeHandle 3] := rfl

end Mmap
end ShadowsocksGo
