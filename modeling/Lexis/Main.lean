import Lexis.Command.Run

/-!
# The command

The outer layer: it looks up the one path that the request needs, reads standard input where the
request reads it, and writes the outcome down.
-/

open Lexis.Command

/-- All bytes that a stream still holds, behind those already read. -/
partial def bytesOf (stream : IO.FS.Stream) (read : ByteArray) : IO ByteArray := do
  let block ← stream.read 65536
  if block.isEmpty then return read else bytesOf stream (read ++ block)

/-- What a path leads to on this machine. -/
def entryOnDisk (path : String) : IO Entry := do
  try
    let place ← IO.FS.realPath path
    if ← place.isDir then return .directory
    return .file (← IO.FS.readBinFile place).toList
  catch _ => return .missing

/-- Run the command. -/
def main (arguments : List String) : IO UInt32 := do
  let entry ←
    match lookedUp? arguments with
    | some path => entryOnDisk path
    | none => pure Entry.missing
  let input ←
    if readsStandardInput arguments then bytesOf (← IO.getStdin) ByteArray.empty
    else pure ByteArray.empty
  match run arguments (fun _ => entry) input.toList with
  | .ok outcome =>
    IO.print outcome.stdout
    IO.eprint outcome.stderr
    return outcome.exit.code.toUInt32
  | .error error =>
    IO.eprintln error.message
    return 1
