import ScanMatrix.Files.Path

/-!
# Files

What a program may ask of the files around it, as an interface, and a model of those files: places
with contents. A directory is there when something is in it. The model has no links.
-/

namespace ScanMatrix

/-- Why a request fails. -/
structure FileError where
  text : String
  code : Option Nat

namespace FileError

def notFound : FileError := ⟨"No such file or directory", some 2⟩

def notDirectory : FileError := ⟨"Not a directory", some 20⟩

def isDirectory : FileError := ⟨"Is a directory", some 21⟩

def noSpace : FileError := ⟨"No space left on device", some 28⟩

def nameTooLong : FileError := ⟨"File name too long", some 36⟩

def zeroInName : FileError := ⟨"file name contained an unexpected NUL byte", none⟩

def notText : FileError := ⟨"stream did not contain valid UTF-8", none⟩

def message (e : FileError) : String :=
  match e.code with
  | some n => e.text ++ " (os error " ++ toString n ++ ")"
  | none => e.text

end FileError

/-- What a program may ask of the files around it. -/
class Files (m : Type → Type) where
  /-- A file that is open for writing. -/
  Handle : Type
  read : String → m (Except FileError ByteArray)
  /-- Makes a file, or empties it, and opens it. -/
  create : String → m (Except FileError Handle)
  /-- Puts a text at the end of an open file. -/
  append : Handle → String → m (Except FileError Unit)

/-- A place: names from the root, or from the working directory. The directories above the working
directory are the name `..`, once or more. It is left open where the working directory stands, so a place
from the root and one from the working directory are never the same: in this model a path that starts at
the root and one that does not never lead to one place. -/
structure Place where
  rooted : Bool
  names : List String
  deriving DecidableEq

inductive FileNode where
  | file (content : ByteArray)
  /-- A device that takes nothing. -/
  | full
  /-- A device that takes everything and keeps nothing. -/
  | sink

structure Store where
  nodes : List (Place × FileNode)

namespace Store

def find? (st : Store) (p : Place) : Option FileNode :=
  (st.nodes.find? fun n => n.1 = p).map (·.2)

def put (st : Store) (p : Place) (node : FileNode) : Store :=
  if (st.find? p).isSome then ⟨st.nodes.map fun n => if n.1 = p then (p, node) else n⟩
  else ⟨st.nodes ++ [(p, node)]⟩

def isDirectory (st : Store) (p : Place) : Bool :=
  p.names.all (· = "..") ||
    st.nodes.any fun n =>
      n.1.rooted = p.rooted && p.names.isPrefixOf n.1.names && p.names.length < n.1.names.length

end Store

namespace Place

def enter (p : Place) (name : String) : Place :=
  if name = "." then p
  else if name = ".." then
    if p.names.all (· = "..") then (if p.rooted then p else { p with names := p.names ++ [".."] })
    else { p with names := p.names.dropLast }
  else { p with names := p.names ++ [name] }

end Place

namespace Store

/-- The longest name of a file, in bytes. -/
def longestName : Nat := 255

/-- The longest path, in bytes. -/
def longestPath : Nat := 4095

/-- Refuses a place in which nothing can be looked up. -/
def checkDirectory (st : Store) (p : Place) : Except FileError Unit :=
  if st.isDirectory p then .ok ()
  else if (st.find? p).isSome then .error .notDirectory
  else .error .notFound

def walk (st : Store) : Place → List String → Except FileError Place
  | p, [] => .ok p
  | p, name :: names => do
    st.checkDirectory p
    if longestName < name.utf8ByteSize then .error .nameTooLong
    else st.walk (p.enter name) names

/-- What a path says: where it starts, its names, and whether a slash ends it. -/
structure Route where
  start : Place
  names : List String
  slash : Bool

def route (path : String) : Except FileError Route :=
  let cs := path.toList
  if '\x00' ∈ cs then .error .zeroInName
  else if cs = [] then .error .notFound
  else if longestPath < path.utf8ByteSize then .error .nameTooLong
  else .ok {
    start := ⟨cs.head? = some '/', []⟩
    names := ((Path.parts cs).filter (!·.isEmpty)).map String.ofList
    slash := cs.getLast? = some '/' }

def read (st : Store) (path : String) : Except FileError ByteArray := do
  let r ← route path
  let p ← st.walk r.start r.names
  if st.isDirectory p then .error .isDirectory
  else match st.find? p with
    | none => .error .notFound
    | some (.file content) => if r.slash then .error .notDirectory else .ok content
    | some _ => if r.slash then .error .notDirectory else .ok .empty

/-- Makes or empties the file at a path, and tells where it is. A path that a slash ends is refused
before its last name is looked at. -/
def create (st : Store) (path : String) : Except FileError (Place × Store) := do
  let r ← route path
  if r.slash then
    let p ← st.walk r.start r.names.dropLast
    st.checkDirectory p
    .error .isDirectory
  else
    let p ← st.walk r.start r.names
    if st.isDirectory p then .error .isDirectory
    else match st.find? p with
      | some .full => .ok (p, st)
      | some .sink => .ok (p, st)
      | _ => .ok (p, st.put p (.file .empty))

def append (st : Store) (p : Place) (text : String) : Except FileError Store :=
  match st.find? p with
  | some .full => .error .noSpace
  | some .sink => .ok st
  | some (.file content) => .ok (st.put p (.file (content ++ text.toUTF8)))
  | none => .error .notFound

instance : Files (StateM Store) where
  Handle := Place
  read path := fun st => (st.read path, st)
  create path := fun st =>
    match st.create path with
    | .ok (p, st') => (.ok p, st')
    | .error e => (.error e, st)
  append p text := fun st =>
    match st.append p text with
    | .ok st' => (.ok (), st')
    | .error e => (.error e, st)

end Store

end ScanMatrix
