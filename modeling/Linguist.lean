import Linguist.Main
import Linguist.Proofs.Collection.Choice
import Linguist.Proofs.Command.Conversion
import Linguist.Proofs.FileName
import Linguist.Proofs.Independence
import Linguist.Proofs.Phrasebook.Coherence
import Linguist.Proofs.Placeholder.Comparison
import Linguist.Proofs.Stats
import Linguist.Proofs.Ts.Cut
import Linguist.Proofs.Ts.Rereading
import Linguist.Proofs.Ts.SelfClosed
import Linguist.Proofs.Ts.Spelling
import Linguist.Proofs.Ts.Truncation
import Linguist.Proofs.View
