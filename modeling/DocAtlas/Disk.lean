-- SUMMARY: A disk: directories, files and links by their place, and what reading and writing a path does.
import DocAtlas.Path
import DocAtlas.Text.Utf8

/-! # Disks

A disk holds a directory, a file or a link at each place that is in use. Paths
are absolute; following one asks of every piece but the last that it lead to a
directory, and goes on at the target where a piece leads to a link. Operations
that change the disk give the new disk even where they fail, since directories
made on the way stay.

Of access rights a disk has one: a directory may be closed to listing, and what
lies below it is then passed over without a word. Everything else can be read
and written. Names, links and paths are text, two places never share a file,
there are no devices and pipes, paths may be of any length, and a file is
written as a whole or not at all. -/

namespace DocAtlas

/-! ## Places and nodes -/

abbrev FileName := List Char

/-- The names that lead from the root to a directory or a file. -/
abbrev Place := List FileName

namespace Place

/-- The path of a place. -/
def path (p : Place) : String := String.ofList ('/' :: Text.joinWith '/' p)

/-- The place itself and the directories around it, the nearest first. -/
def ancestors (p : Place) : List Place := (List.range (p.length + 1)).reverse.map p.take

end Place

/-- What a file holds: text, or bytes that are none. -/
inductive FileData where
  | text (s : String)
  | binary (bytes : List UInt8)
  deriving DecidableEq

/-- The data that the bytes of a file stand for. -/
def FileData.ofBytes (bytes : List UInt8) : FileData :=
  match Text.Utf8.strict? bytes with
  | some cs => .text (String.ofList cs)
  | none => .binary bytes

inductive Node where
  | directory
  | file (data : FileData)
  deriving DecidableEq

structure Disk where
  /-- The nodes below the root, which is always there. -/
  nodes : List (Place × Node) := []
  /-- The links, each with the path that it stands for. -/
  links : List (Place × String) := []
  /-- The directories that cannot be listed. -/
  closed : List Place := []

namespace Disk

/-- Why an operation on a path fails. -/
inductive Fault where
  | notFound
  | notDirectory
  | isDirectory
  | alreadyExists
  | nameTooLong
  | tooManyLinks
  | notText
  deriving DecidableEq

def Fault.message : Fault → String
  | notFound => "No such file or directory (os error 2)"
  | notDirectory => "Not a directory (os error 20)"
  | isDirectory => "Is a directory (os error 21)"
  | alreadyExists => "File exists (os error 17)"
  | nameTooLong => "File name too long (os error 36)"
  | tooManyLinks => "Too many levels of symbolic links (os error 40)"
  | notText => "stream did not contain valid UTF-8"

def get? (d : Disk) (p : Place) : Option Node :=
  if p = [] then some .directory else (d.nodes.find? (·.1 = p)).map (·.2)

/-- The target of the link at a place. -/
def link? (d : Disk) (p : Place) : Option String :=
  if p = [] then none else (d.links.find? (·.1 = p)).map (·.2)

/-- Puts a node at a place. -/
def set (d : Disk) (p : Place) (n : Node) : Disk :=
  { d with nodes := (p, n) :: d.nodes.filter (·.1 ≠ p) }

/-! ## Following paths -/

/-- The pieces of a path between its separators. -/
def pieces (path : String) : List FileName := (Text.splitOn '/' path.toList).filter (· ≠ [])

/-- The most bytes that a name may have. -/
def nameLimit : Nat := 255

/-- Goes on from a directory by one piece of a path. -/
def step (d : Disk) (p : Place) (piece : FileName) : Except Fault Place :=
  match d.get? p with
  | none => .error .notFound
  | some (.file _) => .error .notDirectory
  | some .directory =>
    if piece = ['.'] then .ok p
    else if piece = ['.', '.'] then .ok p.dropLast
    else if nameLimit < (Text.Utf8.encode piece).length then .error .nameTooLong
    else .ok (p ++ [piece])

/-- Whether a path ends like that of a directory. -/
def endsAsDirectory (path : String) : Bool :=
  match (Text.splitOn '/' path.toList).getLast? with
  | some last => last = [] || last = ['.']
  | none => true

/-- How far a path leads without a link: to its end, or up to a link, where `rest` is to be
followed from `p` instead. -/
inductive Stretch where
  | whole (p : Place)
  | upToLink (p : Place) (rest : List FileName)

/-- The place from which the target of the link at `q` is taken. -/
def linkBase (q : Place) (target : String) : Place :=
  if Path.isAbsolute target then [] else q.dropLast

/-- The pieces of a link's target; where it ends like a directory, it has to be one. -/
def linkPieces (target : String) : List FileName :=
  pieces target ++ if endsAsDirectory target then [['.']] else []

def stretch (d : Disk) : Place → List FileName → Except Fault Stretch
  | p, [] => .ok (.whole p)
  | p, piece :: rest => do
    let q ← d.step p piece
    match d.link? q with
    | some target => .ok (.upToLink (linkBase q target) (linkPieces target ++ rest))
    | none => stretch d q rest

/-- Follows a path for a number of stretches. -/
def followFor (d : Disk) : (stretches : Nat) → Place → List FileName → Except Fault Place
  | 0, _, _ => .error .tooManyLinks
  | stretches + 1, p, path => do
    match ← d.stretch p path with
    | .whole q => .ok q
    | .upToLink q rest => followFor d stretches q rest

/-- The most links that a path may lead through. -/
def linkLimit : Nat := 40

def follow (d : Disk) (p : Place) (path : List FileName) : Except Fault Place :=
  d.followFor (linkLimit + 1) p path

/-- The place that a path leads to, whether or not it is in use. -/
def place (d : Disk) (path : String) : Except Fault Place := d.follow [] (pieces path)

/-- The place of what the last piece of a path names, be it a link. -/
def entry (d : Disk) (path : String) : Except Fault Place :=
  match (pieces path).getLast? with
  | none => .ok []
  | some last => do d.step (← d.follow [] (pieces path).dropLast) last

/-- What a path leads to, and where. -/
def find (d : Disk) (path : String) : Except Fault (Place × Node) := do
  let p ← d.place path
  match d.get? p with
  | none => .error .notFound
  | some (.file data) =>
    if endsAsDirectory path then .error .notDirectory else .ok (p, .file data)
  | some .directory => .ok (p, .directory)

def holds (d : Disk) (path : String) : Bool := (d.find path).isOk

def isFile (d : Disk) (path : String) : Bool :=
  match d.find path with
  | .ok (_, .file _) => true
  | _ => false

def isDirectory (d : Disk) (path : String) : Bool :=
  match d.find path with
  | .ok (_, .directory) => true
  | _ => false

/-- The path from the root without `.` and `..`, where the path leads to something. -/
def canonical? (d : Disk) (path : String) : Option String :=
  match d.find path with
  | .ok (p, _) => some p.path
  | .error _ => none

/-- The canonical form of a path that is taken from the directory `cwd`; what leads nowhere is
left as it is. -/
def normalize (d : Disk) (cwd path : String) : String :=
  let whole := Path.join cwd path
  if path = "" then whole else (d.canonical? whole).getD whole

def readText (d : Disk) (path : String) : Except Fault String := do
  match ← d.find path with
  | (_, .file (.text s)) => .ok s
  | (_, .file (.binary _)) => .error .notText
  | (_, .directory) => .error .isDirectory

/-! ## Listing -/

/-- The names from the place `p` to the place `q` below it. -/
def below? : (p q : Place) → Option Place
  | [], q => some q
  | _ :: _, [] => none
  | x :: p, y :: q => if x = y then below? p q else none

/-- Whether a file below a directory is listed: neither its name nor that of a directory on the way
starts with a dot. -/
def isListed (p : Place) : Bool := p.all fun name => name.head? ≠ some '.'

/-- Whether the directories on the way from the place `p` to a file below it can be listed. -/
def isOpen (d : Disk) : (p rel : Place) → Bool
  | _, [] => true
  | p, name :: rel => !d.closed.contains p && isOpen d (p ++ [name]) rel

/-- The listed files below a place, from there, in the order of their names. Links are not
followed. -/
def filesBelow (d : Disk) (p : Place) : List Place :=
  let files := d.nodes.filterMap fun (q, n) =>
    match n with
    | .file _ => (below? p q).filter fun rel => rel ≠ [] && isListed rel && d.isOpen p rel
    | .directory => none
  files.mergeSort fun a b => !decide (b < a)

/-! ## Writing -/

/-- Writes a file; its directory has to be there. -/
def write (d : Disk) (path text : String) : Except Fault Disk := do
  let p ← d.place path
  match d.get? p with
  | some .directory => .error .isDirectory
  | _ => .ok (d.set p (.file (.text text)))

/-- Whether the last piece of a path is a name. -/
def endsWithName (path : String) : Bool :=
  match (pieces path).getLast? with
  | some last => last ≠ ['.'] && last ≠ ['.', '.']
  | none => false

/-- Makes one directory, at a place that is free. -/
def makeDirectory (d : Disk) (path : String) : Except Fault Disk := do
  let p ← d.entry path
  if !endsWithName path || (d.get? p).isSome || (d.link? p).isSome then .error .alreadyExists
  else .ok (d.set p .directory)

/-- Makes one directory, unless it is there. -/
def ensureDirectory (d : Disk) (path : String) : Except Fault Disk :=
  match d.makeDirectory path with
  | .ok d => .ok d
  | .error fault => if d.isDirectory path then .ok d else .error fault

/-- Makes a directory and the directories around it that are missing. -/
def makeDirectoriesUpTo : (fuel : Nat) → Disk → String → Disk × Except Fault Unit
  | 0, d, _ => (d, .error .notFound)
  | fuel + 1, d, path =>
    if path = "" then (d, .ok ())
    else match d.ensureDirectory path with
      | .ok d => (d, .ok ())
      | .error .notFound =>
        match Path.parent? path with
        | none => (d, .error .notFound)
        | some parent =>
          match makeDirectoriesUpTo fuel d parent with
          | (d, .error fault) => (d, .error fault)
          | (d, .ok ()) =>
            match d.ensureDirectory path with
            | .ok d => (d, .ok ())
            | .error fault => (d, .error fault)
      | .error fault => (d, .error fault)

def makeDirectories (d : Disk) (path : String) : Disk × Except Fault Unit :=
  makeDirectoriesUpTo (path.length + 1) d path

end Disk

end DocAtlas
