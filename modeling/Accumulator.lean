import Accumulator.Console.Interrupted
import Accumulator.Main
import Accumulator.Proofs.Characters
import Accumulator.Proofs.Lines
import Accumulator.Proofs.Fields
import Accumulator.Proofs.Grammar
import Accumulator.Proofs.Assembly
import Accumulator.Proofs.Disassembly
import Accumulator.Proofs.Labels
import Accumulator.Proofs.Faults
import Accumulator.Proofs.History
import Accumulator.Proofs.Provenance
import Accumulator.Proofs.Digits
import Accumulator.Proofs.Cycles
import Accumulator.Proofs.Unread
import Accumulator.Proofs.FloorDivision
import Accumulator.Proofs.Traps
import Accumulator.Proofs.Warnings
import Accumulator.Proofs.StraightLine
import Accumulator.Proofs.Subroutines
import Accumulator.Proofs.AddressSpace
import Accumulator.Proofs.Interchange
import Accumulator.Proofs.Footprint
import Accumulator.Proofs.Unseen
import Accumulator.Proofs.Halting
import Accumulator.Proofs.Reload
import Accumulator.Proofs.Blur
import Accumulator.Proofs.LetterCase
import Accumulator.Proofs.Linking
import Accumulator.Proofs.Pieces
import Accumulator.Proofs.Renaming
import Accumulator.Proofs.Addressing
import Accumulator.Proofs.Calculation
import Accumulator.Proofs.ConsoleCalls
import Accumulator.Proofs.Stores
import Accumulator.Proofs.Layout
import Accumulator.Proofs.Check
import Accumulator.Proofs.Definitions
import Accumulator.Proofs.Growth
import Accumulator.Proofs.Placeholder
import Accumulator.Proofs.Echo
import Accumulator.Proofs.Coercion
import Accumulator.Proofs.Narration
import Accumulator.Proofs.Tracing
