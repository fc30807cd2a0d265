import Wordweave.Form.Table
import Wordweave.Main
import Wordweave.Proofs.Run.Evaluation
import Wordweave.Proofs.Wire.Suspension
import Wordweave.Proofs.Wire.Preorder
import Wordweave.Proofs.Wire.Padding
import Wordweave.Proofs.Wire.RoundTrip
import Wordweave.Proofs.Memory.Slots
import Wordweave.Proofs.Vocabulary.Repetition
import Wordweave.Proofs.Run.Normal
import Wordweave.Proofs.Wire.Program
import Wordweave.Proofs.Run.Journal
import Wordweave.Proofs.Memory.History
import Wordweave.Proofs.Run.Unique
import Wordweave.Proofs.Run.Classes
import Wordweave.Proofs.Run.Matching
import Wordweave.Proofs.Wire.Usage
import Wordweave.Proofs.Wire.SavedLookup
import Wordweave.Proofs.Wire.SavedProgram
import Wordweave.Proofs.Vocabulary.Agreement
import Wordweave.Proofs.Run.Confinement
import Wordweave.Proofs.Run.WellFormed
import Wordweave.Proofs.Wire.Stream
import Wordweave.Proofs.Wire.Container
import Wordweave.Proofs.Term.Halves
import Wordweave.Proofs.Vocabulary.Range
import Wordweave.Proofs.Json.RoundTrip
import Wordweave.Proofs.Form.Record
import Wordweave.Proofs.Form.Program
import Wordweave.Proofs.Run.Order
import Wordweave.Proofs.Run.Rhyme
import Wordweave.Proofs.Run.Outline
import Wordweave.Proofs.Run.Forced
import Wordweave.Proofs.Carrier.Renaming
import Wordweave.Proofs.Run.Renaming
import Wordweave.Proofs.Run.Reach
import Wordweave.Proofs.Vocabulary.Selection
import Wordweave.Proofs.Wire.Resumption
import Wordweave.Proofs.Run.Steps
import Wordweave.Proofs.Wire.Layout
import Wordweave.Proofs.Sound.VowelRun
import Wordweave.Proofs.Sound.Syllable
import Wordweave.Proofs.Run.Seam
import Wordweave.Proofs.Run.Exhaustion
import Wordweave.Proofs.Wire.UnknownFilter
import Wordweave.Proofs.Run.Erasure
import Wordweave.Proofs.Memory.Changes
import Wordweave.Proofs.Sound.Rime
import Wordweave.Proofs.Vocabulary.Construction
