import DocLaunch.Fault.System
import DocLaunch.Path.Basic

namespace DocLaunch

/-- A place in the tree: the names that lead to it from the top, the last one first. -/
abbrev Place := List String

def Place.toPath (p : Place) : Path :=
  "/" ++ "/".intercalate p.reverse

inductive Node where
  | directory
  | file (content : ByteArray) (executable : Bool)
  | link (target : Path)

def Node.isDirectory : Node → Bool
  | directory => true
  | _ => false

/-- What stands at which place. At the top there is always a directory. -/
structure FileSystem where
  nodes : List (Place × Node)

namespace FileSystem

def empty : FileSystem := ⟨[]⟩

def node? (fs : FileSystem) : Place → Option Node
  | [] => some .directory
  | p => fs.nodes.lookup p

/-- The tree with one node put in or replaced. -/
def set (fs : FileSystem) (p : Place) (n : Node) : FileSystem :=
  ⟨(p, n) :: fs.nodes.filter fun e => e.1 != p⟩

/-- The tree without a place and all below it. -/
def remove (fs : FileSystem) (p : Place) : FileSystem :=
  ⟨fs.nodes.filter fun e => !p.isSuffixOf e.1⟩

def below (fs : FileSystem) (p : Place) : List (Place × Node) :=
  fs.nodes.filter fun e => p.isSuffixOf e.1 && e.1 != p

/-- Where a path leads; `slash` tells that it demands a directory there. -/
structure Target where
  place : Place
  node? : Option Node
  slash : Bool

/-- What a walk does at a link where the path ends. -/
inductive LastLink where
  | keep
  | follow
  /-- Follow it unless a directory is demanded there, as for a file that is to be made. -/
  | followPlain
  deriving DecidableEq, Repr

def LastLink.follows (slash : Bool) : LastLink → Bool
  | keep => false
  | follow => true
  | followPlain => !slash

def maxName : Nat := 255

def maxPath : Nat := 4095

/-- So many links are followed on one walk. -/
def maxLinks : Nat := 40

/--
Take the steps of a path. At a link the walk is handed over with the steps of its target put before
those that are left. Only at the end may nothing stand.
-/
def walkSteps (fs : FileSystem) (last : LastLink)
    (jump : Place → List Path.Segment → Bool → Except SystemFault Target) :
    Place → List Path.Segment → Bool → Except SystemFault Target
  | here, [], slash => .ok ⟨here, fs.node? here, slash⟩
  | here, step :: rest, slash =>
    match fs.node? here with
    | none => .error .notFound
    | some .directory =>
      match step with
      | .stay => walkSteps fs last jump here rest slash
      | .parent => walkSteps fs last jump here.tail rest slash
      | .name n =>
        if maxName < n.utf8ByteSize then .error .nameTooLong
        else
          match fs.node? (n :: here) with
          | none => if rest.isEmpty then .ok ⟨n :: here, none, slash⟩ else .error .notFound
          | some (.link target) =>
            if rest.isEmpty && !last.follows slash then .ok ⟨n :: here, some (.link target), slash⟩
            else
              jump (if Path.isAbsolute target then [] else here) (Path.segments target ++ rest)
                (slash || (rest.isEmpty && Path.endsInSlash target))
          | some _ => walkSteps fs last jump (n :: here) rest slash
    | some _ => .error .notDirectory

/-- A walk that follows a bounded number of links. -/
def walk (fs : FileSystem) (last : LastLink) :
    Nat → Place → List Path.Segment → Bool → Except SystemFault Target
  | 0 => walkSteps fs last fun _ _ _ => .error .tooManyLinks
  | links + 1 => walkSteps fs last (walk fs last links)

/-- Where a path leads from a working directory. -/
def find (fs : FileSystem) (last : LastLink) (cwd : Place) (p : Path) :
    Except SystemFault Target :=
  if p.toList.contains '\x00' then .error .nulInPath
  else if p.isEmpty then .error .notFound
  else if maxPath < p.utf8ByteSize then .error .nameTooLong
  else
    walk fs last maxLinks (if Path.isAbsolute p then [] else cwd) (Path.segments p)
      (Path.endsInSlash p)

end FileSystem
end DocLaunch
