-- SUMMARY: The command line program: a view of the disk is taken, the command run, and its changes written.
import DocAtlas.Command.Reach

/-! # The program

All decisions are made by `Command.answer` on a view of the disk. What is here
takes the view, writes the changes and prints. -/

namespace DocAtlas.Program

/-- Takes what is at a place into the view. A link is taken for the path to which it leads in the
end. -/
def look (view : Disk) (p : Place) : IO Disk := do
  let .ok real ← (IO.FS.realPath p.path).toBaseIO | return view
  if real.toString ≠ p.path then
    return { view with links := view.links.insert (p, real.toString) }
  if ← real.isDir then return view.set p .directory
  let .ok bytes ← (IO.FS.readBinFile p.path).toBaseIO | return view
  return view.set p (.file (.ofBytes bytes.toList))

/-- Follows a path piece by piece and takes what is on the way into the view. -/
def lookAlong (view : Disk) : Place → List FileName → IO (Disk × Option Place)
  | p, [] => return (view, some p)
  | p, piece :: rest => do
    let .ok next := view.step p piece | return (view, none)
    let view ← look view next
    match view.link? next with
    | none => lookAlong view next rest
    | some target =>
      let next : Place := Disk.pieces target
      lookAlong (← next.ancestors.reverse.foldlM look view) next rest

/-- Takes all that is below a place into the view. -/
partial def lookBelow (view : Disk) (p : Place) : IO Disk := do
  if view.get? p ≠ some .directory then return view
  let .ok entries ← ((IO.FS.realPath p.path) >>= (·.readDir)).toBaseIO
    | return { view with closed := view.closed.insert p }
  entries.foldlM (fun view entry => do
    let next := p ++ [entry.fileName.toList]
    lookBelow (← look view next) next) view

/-- Takes what a command looks at into the view. -/
def takeIn (view : Disk) : Command.Reach → IO Disk
  | .path path => return (← lookAlong view [] (Disk.pieces path)).1
  | .tree path => do
    match ← lookAlong view [] (Disk.pieces path) with
    | (view, some p) => lookBelow view p
    | (view, none) => return view

/-- The view of the disk that a command line needs. -/
def viewFor (cwd : Place) (words : List String) : IO Disk := do
  let start ← takeIn {} (.path cwd.path)
  match Command.parse words with
  | .error _ => return start
  | .ok c =>
    (List.range Command.rounds).foldlM (fun view _ => (c.reach view cwd).foldlM takeIn view) start

/-- Writes the nodes that differ, in the order in which they were made. -/
def writeChanges (old new : Disk) : IO Unit :=
  new.nodes.reverse.forM fun (p, node) => do
    if old.get? p = some node then return
    match node with
    | .directory => IO.FS.createDirAll p.path
    | .file (.text text) => IO.FS.writeFile p.path text
    | .file (.binary bytes) => IO.FS.writeBinFile p.path ⟨bytes.toArray⟩

end DocAtlas.Program

open DocAtlas in
def main (words : List String) : IO UInt32 := do
  let cwd : Place := Disk.pieces (← IO.currentDir).toString
  let view ← Program.viewFor cwd words
  let terminal ← (← IO.getStdout).isTty
  let outcome := Command.answer view cwd words terminal
  Program.writeChanges view outcome.disk
  IO.print outcome.printed.output
  IO.eprint outcome.printed.error
  return outcome.exitCode
