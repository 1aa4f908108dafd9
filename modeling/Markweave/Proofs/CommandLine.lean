import Markweave.CommandLine.Run
import Markweave.Proofs.FileTree

namespace Markweave.CommandLine

section

variable {clock : Clock} {host : Host} {stdin : ByteArray} {a : Arguments} {refusals : Refusals}

end

end Markweave.CommandLine
