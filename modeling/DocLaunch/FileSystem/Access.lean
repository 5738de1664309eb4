import DocLaunch.FileSystem.Basic
import DocLaunch.Path.Basic

namespace DocLaunch.FileSystem

def status (fs : FileSystem) (cwd : Place) (p : Path) : Except SystemFault (Place × Node) := do
  let t ← fs.find .follow cwd p
  match t.node? with
  | none => .error .notFound
  | some n => if t.slash && !n.isDirectory then .error .notDirectory else .ok (t.place, n)

def isThere (fs : FileSystem) (cwd : Place) (p : Path) : Bool :=
  (fs.status cwd p).isOk

def isDirectory (fs : FileSystem) (cwd : Place) (p : Path) : Bool :=
  match fs.status cwd p with
  | .ok (_, .directory) => true
  | _ => false

def readBytes (fs : FileSystem) (cwd : Place) (p : Path) : Except SystemFault ByteArray := do
  match ← fs.status cwd p with
  | (_, .file content _) => .ok content
  | _ => .error .isDirectory

def readText (fs : FileSystem) (cwd : Place) (p : Path) : Except SystemFault String := do
  match String.fromUTF8? (← fs.readBytes cwd p) with
  | some text => .ok text
  | none => .error .notUtf8

/--
Make a file or replace the content of one; the mode of an old file stays. Through a link at the end
the file that it names is written.
-/
def writeBytes (fs : FileSystem) (cwd : Place) (p : Path) (content : ByteArray) :
    Except SystemFault FileSystem := do
  let t ← fs.find .followPlain cwd p
  if t.slash then .error .isDirectory
  else
    match t.node? with
    | none => .ok (fs.set t.place (.file content false))
    | some (.file _ executable) => .ok (fs.set t.place (.file content executable))
    | some _ => .error .isDirectory

def writeText (fs : FileSystem) (cwd : Place) (p : Path) (text : String) :
    Except SystemFault FileSystem :=
  fs.writeBytes cwd p text.toUTF8

def makeDirectory (fs : FileSystem) (cwd : Place) (p : Path) : Except SystemFault FileSystem := do
  let t ← fs.find .keep cwd p
  match t.node? with
  | none => .ok (fs.set t.place .directory)
  | some _ => .error .alreadyThere

/--
Make the first of a chain of ancestors, and before it those after it in the chain as far as they are
missing. What was made stays even if a later step fails.
-/
def makeChain (cwd : Place) : FileSystem → List Path → FileSystem × Except SystemFault Unit
  | fs, [] => (fs, .ok ())
  | fs, p :: above =>
    if p.isEmpty then (fs, .ok ())
    else
      match fs.makeDirectory cwd p with
      | .ok fs => (fs, .ok ())
      | .error e =>
        if e = .notFound then
          match makeChain cwd fs above with
          | (fs, .error e) => (fs, .error e)
          | (fs, .ok ()) =>
            match fs.makeDirectory cwd p with
            | .ok fs => (fs, .ok ())
            | .error e => (fs, if fs.isDirectory cwd p then .ok () else .error e)
        else (fs, if fs.isDirectory cwd p then .ok () else .error e)

/-- Make a directory and all that are missing above it. -/
def makeDirectories (fs : FileSystem) (cwd : Place) (p : Path) :
    FileSystem × Except SystemFault Unit :=
  makeChain cwd fs (Path.ancestors p)

end DocLaunch.FileSystem
