import ScanMatrix.Program.Converter
import ScanMatrix.Program.KeyTable

/-!
# Running the programs

The two programs on real files. The one that shows keys runs when the executable has its name.
-/

namespace ScanMatrix

namespace FileError

def ofCode (code : UInt32) (details : String) : FileError :=
  match code.toNat with
  | 2 => notFound
  | 20 => notDirectory
  | 21 => isDirectory
  | 28 => noSpace
  | 36 => nameTooLong
  | 13 => ⟨"Permission denied", some 13⟩
  | n => ⟨details, some n⟩

def ofError : IO.Error → FileError
  | .noFileOrDirectory _ code details => ofCode code details
  | .inappropriateType _ code details => ofCode code details
  | .permissionDenied _ code details => ofCode code details
  | .resourceExhausted _ code details => ofCode code details
  | .invalidArgument _ code details => ofCode code details
  | .otherError code details => ofCode code details
  | .alreadyExists _ code details => ofCode code details
  | .illegalOperation code details => ofCode code details
  | .resourceBusy code details => ofCode code details
  | .hardwareFault code details => ofCode code details
  | e => ⟨toString e, none⟩

end FileError

def attempt {α : Type} (act : IO α) : IO (Except FileError α) := do
  match ← act.toBaseIO with
  | .ok a => return .ok a
  | .error e => return .error (.ofError e)

instance : Files IO where
  Handle := IO.FS.Handle
  read path := attempt (IO.FS.readBinFile path)
  create path := attempt (IO.FS.Handle.mk path .write)
  append handle text := attempt do
    handle.putStr text
    handle.flush

end ScanMatrix

open ScanMatrix in
def main (words : List String) : IO UInt32 := do
  let self ← IO.appPath
  let outcome ←
    if self.fileName = some Program.tableProgram then Program.runKeyTable words
    else Program.runConverter words
  IO.print outcome.stdout
  IO.eprint outcome.stderr
  return UInt32.ofNat outcome.exit
