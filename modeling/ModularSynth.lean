import ModularSynth.Device.Scripted
import ModularSynth.Language.Compile
import ModularSynth.Patch.Operation
import ModularSynth.Patch.Shared
import ModularSynth.Proofs.Language.Building
import ModularSynth.Proofs.Language.Grammar
import ModularSynth.Proofs.Patch.Synchrony
import ModularSynth.Settings.File
import ModularSynth.Proofs.Language.Cut
import ModularSynth.Proofs.Slots.History
import ModularSynth.Proofs.Patch.Lifetime
import ModularSynth.Proofs.Patch.Places
import ModularSynth.Proofs.Patch.Renaming
import ModularSynth.Proofs.Language.Unplayed
import ModularSynth.Proofs.Patch.Kinds
import ModularSynth.Proofs.Language.Playing
import ModularSynth.Proofs.Patch.Reading
import ModularSynth.Proofs.Patch.Restoring
import ModularSynth.Proofs.Patch.Influence
import ModularSynth.Proofs.Language.Reordering
import ModularSynth.Proofs.Language.Atomicity
import ModularSynth.Proofs.Patch.Refusal
import ModularSynth.Proofs.Patch.Cascade
import ModularSynth.Proofs.Language.Resumption
import ModularSynth.Proofs.Language.FirstError
import ModularSynth.Proofs.Language.Choice
import ModularSynth.Proofs.Language.Spelling
import ModularSynth.Proofs.Language.Relocation
import ModularSynth.Proofs.Language.Linewise
import ModularSynth.Proofs.Language.Viable
import ModularSynth.Proofs.Language.Numerals
import ModularSynth.Proofs.Language.Recovery
import ModularSynth.Proofs.Patch.Naming
import ModularSynth.Proofs.Patch.Provenance
import ModularSynth.Proofs.Language.Earliest
import ModularSynth.Language.TextReader
import ModularSynth.Proofs.Language.Independence
import ModularSynth.Proofs.Language.LineEnds
import ModularSynth.Proofs.Slots.Calls
import ModularSynth.Proofs.Language.Progress
import ModularSynth.Proofs.Device.OrderedMap
import ModularSynth.Proofs.Language.Collecting
