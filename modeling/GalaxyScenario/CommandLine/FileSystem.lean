import GalaxyScenario.Document

/-!
A file system as a value: nodes with numbers, to which directories give names. A path is gone
through name by name and link by link, and each failure is that of the step that meets it. Any step
and any use of a node can also be refused, and a file can be too long for the room that there is.
-/
namespace GalaxyScenario.CommandLine

/-- Something that is read or written like a file and keeps nothing of it. -/
inductive Device where
  | null | input | output | errors
  deriving DecidableEq, Repr

inductive Node where
  | file (content : ByteArray)
  | directory (parent : Nat) (names : List (String × Nat))
  | device (device : Device)
  | link (target : String)

/-- What can be wanted of a node: the last two are to write into a file and to make one in a
directory. -/
inductive Access where
  | search | read | write | create
  deriving DecidableEq

/-- A file system. The root is the node 0, and paths that do not begin there begin in the working
directory. What is refused, and after how many bytes a file has no more room, is up to the system.
-/
structure FileSystem where
  nodes : Array Node
  workingDirectory : Nat
  refusal : Access → Nat → Option FileFailure := fun _ _ => none
  limit : Nat → Option (Nat × FileFailure) := fun _ => none

inductive Step where
  | arrive (number : Nat)
  | follow (target : String)
  | missing
  | fail (failure : FileFailure)
  deriving DecidableEq

/-- Where a path leads: to a node, to a new name in a directory, or nowhere. -/
inductive Place where
  | known (number : Nat)
  | vacant (directory : Nat) (name : String)
  | nowhere (failure : FileFailure)
  deriving DecidableEq

inductive Handle where
  | file (number : Nat)
  | device (device : Device)
  deriving DecidableEq

def longestName : Nat := 255

def longestPath : Nat := 4095

def mostLinks : Nat := 40

/-- The names in a path, empty ones among them: they come from slashes side by side or at an end. -/
def components (path : String) : List String := (path.toList.splitOn '/').map String.ofList

namespace FileSystem

def content? (fs : FileSystem) (number : Nat) : Option ByteArray :=
  match fs.nodes[number]? with
  | some (.file content) => some content
  | _ => none

def lookup (fs : FileSystem) (names : List (String × Nat)) (name : String) : Step :=
  match names.lookup name with
  | none => .missing
  | some number =>
    match fs.nodes[number]? with
    | some (.link target) => .follow target
    | some _ => .arrive number
    | none => .fail .notFound

/-- One name on the way through a path, of which the rest is known. No file can be made under a name
that ends in a slash. -/
def step (fs : FileSystem) (access : Access) (number : Nat) (name : String) (rest : List String) :
    Step :=
  match fs.nodes[number]? with
  | some (.directory parent names) =>
    if name = "" then .arrive number
    else
      match fs.refusal .search number with
      | some failure => .fail failure
      | none =>
        if name = "." then .arrive number
        else if name = ".." then .arrive parent
        else if access = .write ∧ rest ≠ [] ∧ rest.all String.isEmpty then .fail .isDirectory
        else if longestName < name.utf8ByteSize then .fail .nameTooLong
        else fs.lookup names name
  | _ => .fail .notADirectory

def start (directory : Nat) (path : String) : Nat := if path.startsWith "/" then 0 else directory

/-- Where the rest of a path leads from a node, if `follow` goes on after a link. -/
def walkUpTo (fs : FileSystem) (access : Access) (follow : Nat → List String → Place) :
    Nat → List String → Place
  | number, [] => .known number
  | number, name :: rest =>
    match fs.step access number name rest with
    | .arrive next => fs.walkUpTo access follow next rest
    | .follow target => follow (start number target) (components target ++ rest)
    | .missing => if rest.isEmpty then .vacant number name else .nowhere .notFound
    | .fail failure => .nowhere failure

def walk (fs : FileSystem) (access : Access) : Nat → Nat → List String → Place
  | 0 => fs.walkUpTo access fun _ _ => .nowhere .tooManyLinks
  | links + 1 => fs.walkUpTo access (fs.walk access links)

def resolve (fs : FileSystem) (access : Access) (path : String) : Place :=
  if path.isEmpty then .nowhere .notFound
  else if path.toList.contains '\x00' then .nowhere .unnameable
  else if longestPath < path.utf8ByteSize then .nowhere .nameTooLong
  else fs.walk access mostLinks (start fs.workingDirectory path) (components path)

def openNode (fs : FileSystem) (access : Access) (number : Nat) : Except FileFailure Handle :=
  let permitted (handle : Handle) : Except FileFailure Handle :=
    match fs.refusal access number with
    | some failure => .error failure
    | none => .ok handle
  match fs.nodes[number]? with
  | some (.file _) => permitted (.file number)
  | some (.device device) => permitted (.device device)
  | some (.directory ..) =>
    .error ((if access = .read then fs.refusal .read number else none).getD .isDirectory)
  | _ => .error .notFound

def openToRead (fs : FileSystem) (path : String) : Except FileFailure Handle :=
  match fs.resolve .read path with
  | .known number => fs.openNode .read number
  | .vacant .. => .error .notFound
  | .nowhere failure => .error failure

def create (fs : FileSystem) (directory : Nat) (name : String) : FileSystem :=
  match fs.nodes[directory]? with
  | some (.directory parent names) =>
    let renamed := Node.directory parent ((name, fs.nodes.size) :: names)
    { fs with nodes := (fs.nodes.setIfInBounds directory renamed).push (.file .empty) }
  | _ => fs

/-- What writing to a path is done to, and the file system in which it is done: a file that is not
there is made. -/
def openToWrite (fs : FileSystem) (path : String) : Except FileFailure (Handle × FileSystem) :=
  match fs.resolve .write path with
  | .known number => (fs.openNode .write number).map (·, fs)
  | .vacant directory name =>
    match fs.refusal .create directory with
    | some failure => .error failure
    | none => .ok (.file fs.nodes.size, fs.create directory name)
  | .nowhere failure => .error failure

def setContent (fs : FileSystem) (number : Nat) (content : ByteArray) : FileSystem :=
  { fs with nodes := fs.nodes.setIfInBounds number (.file content) }

/-- How many bytes fit into a file, if not all of them do, and what is said then. -/
def shortage (fs : FileSystem) (number size : Nat) : Option (Nat × FileFailure) :=
  (fs.limit number).filter fun (room, _) => room < size

/-- Writes to a path. Without room for all of it, a file keeps what fits. -/
def write (fs : FileSystem) (path : String) (content : ByteArray) :
    Except FileFailure Handle × FileSystem :=
  match fs.openToWrite path with
  | .error failure => (.error failure, fs)
  | .ok (.device device, opened) => (.ok (.device device), opened)
  | .ok (.file number, opened) =>
    match opened.shortage number content.size with
    | some (room, failure) => (.error failure, opened.setContent number (content.extract 0 room))
    | none => (.ok (.file number), opened.setContent number content)

end FileSystem
end GalaxyScenario.CommandLine
