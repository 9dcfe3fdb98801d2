import Linguist.Command.Run

/-!
# Linguist — the command

Takes the files a request names into a tree, runs the request on the tree, and
puts what became new or other back in place.
-/

namespace Linguist.Command

/-- The paths a request names. -/
def Request.paths : Request → List String
  | .view request => [request.input]
  | .lookup request => [request.input]
  | .stats request => [request.input]
  | .validate request => [request.input]
  | .convert request => [request.input, request.output]
  | .debug request => request.input :: request.output.toList

/-- The paths an invocation names. -/
def Invocation.paths (invocation : Invocation) : List String :=
  invocation.settings.getD Settings.usualPath :: invocation.request.paths

/-- What stands at a path, if anything does. -/
def entryAt (path : String) : IO (Option Entry) := do
  try
    let place ← IO.FS.realPath path
    match (← place.metadata).type with
    | .dir => return some .dir
    | .file => return some (.file (← IO.FS.readBinFile place).toList)
    | _ => return some (.device (← IO.FS.readBinFile place).toList)
  catch _ => return none

/-- The tree with what stands on the way to a path. -/
def takeIn (tree : FileTree) (path : String) : IO FileTree := do
  let names := Path.components path
  let mut tree := tree
  for count in List.range names.length do
    let outer := Path.ofComponents (names.take (count + 1))
    if let some entry ← entryAt outer then
      if let .ok (.free way _) := tree.resolve outer then
        tree := tree.put way entry
  return tree

/-- Puts an entry in place. -/
def putInPlace (way : Way) (entry : Entry) : IO Unit := do
  let path := Path.ofComponents way
  match entry with
  | .dir => IO.FS.createDir path
  | .file content => IO.FS.writeBinFile path content.toByteArray
  | .device _ => pure ()

end Linguist.Command

open Linguist Linguist.Command

/-- Runs the command. -/
def main (arguments : List String) : IO UInt32 := do
  let paths := ((Invocation.ofArguments? arguments).map Invocation.paths).getD []
  let before ← paths.foldlM takeIn {}
  let (after, outcome) := run arguments before
  let changed := after.entries.filter fun (way, entry) => before.get? way != some entry
  for (way, entry) in changed.mergeSort fun a b => a.1.length ≤ b.1.length do
    putInPlace way entry
  IO.print outcome.out
  IO.eprint outcome.err
  return UInt32.ofNat outcome.exitCode
