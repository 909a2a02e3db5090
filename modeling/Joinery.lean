import Joinery.Main
import Joinery.Scopes
import Joinery.Proofs.Gcode.Emission
import Joinery.Proofs.Machine.Modes
import Joinery.Proofs.Machine.Placement
import Joinery.Proofs.Double.Mantissa
import Joinery.Proofs.Double.Packing
import Joinery.Proofs.Double.Arithmetic
import Joinery.Proofs.Double.Rounding
import Joinery.Proofs.Double.Bits
import Joinery.Proofs.Decimal.Shortest
import Joinery.Proofs.Decimal.Numerals
import Joinery.Proofs.Decimal.RoundTrip
import Joinery.Proofs.Decimal.Spelling
import Joinery.Proofs.Gcode.Numerals
import Joinery.Proofs.Gcode.Rounding
import Joinery.Proofs.Gcode.Order
import Joinery.Proofs.Double.Closeness
import Joinery.Proofs.Measure
import Joinery.Proofs.Gcode.Lengths
import Joinery.Proofs.Gcode.Words
import Joinery.Proofs.Machine.Lines
import Joinery.Proofs.Machine.Lengths
import Joinery.Proofs.Double.Operands
import Joinery.Proofs.Number.Closeness
import Joinery.Proofs.Gcode.Motions
import Joinery.Proofs.Dado.Depths
import Joinery.Proofs.Dado.Steps
import Joinery.Proofs.Machine.Motions
import Joinery.Proofs.Dado.Geometry
import Joinery.Proofs.Dado.Closeness
import Joinery.Proofs.Dado.Units
import Joinery.Proofs.Machine.Deeds
import Joinery.Proofs.Machine.Strokes
import Joinery.Proofs.Dado.Exact
import Joinery.Proofs.Dado.Safety
import Joinery.Proofs.Dado.Counting
import Joinery.Proofs.Dado.Clearance
import Joinery.Proofs.Stateful
import Joinery.Proofs.Yields
import Joinery.Proofs.FileTree.Shape
import Joinery.Proofs.FileTree.Likeness
import Joinery.Proofs.Log.Lines
import Joinery.Proofs.Config.Accepted
import Joinery.Proofs.Config.Faults
import Joinery.Proofs.Config.Reading
import Joinery.Proofs.Config.Usable
import Joinery.Proofs.Value.Sorted
import Joinery.Proofs.Value.Named
import Joinery.Proofs.Config.Reordered
import Joinery.Proofs.Config.Range
import Joinery.Proofs.Dado.Rendering
import Joinery.Proofs.Command.Arguments
import Joinery.Proofs.Command.Logging
import Joinery.Proofs.Command.Setup
import Joinery.Proofs.Command.Parts
import Joinery.Proofs.Command.Course
import Joinery.Proofs.Command.Ending
import Joinery.Proofs.Command.Output
import Joinery.Proofs.Number.Faults
import Joinery.Proofs.Dado.Faults
import Joinery.Proofs.Command.Escapes
import Joinery.Proofs.Program.Nodes
import Joinery.Proofs.Gcode.Outline
import Joinery.Proofs.Gcode.Ambient
import Joinery.Proofs.Scopes
import Joinery.Proofs.FileTree.Contents
import Joinery.Proofs.FileTree.Steps
import Joinery.Proofs.FileTree.Places
import Joinery.Proofs.FileTree.Names
import Joinery.Proofs.FileTree.Saving
import Joinery.Proofs.Command.LogOptions
import Joinery.Proofs.Gcode.Clear
import Joinery.Proofs.Command.FileOutput
import Joinery.Proofs.Number.Signs
import Joinery.Proofs.Dado.Descent
import Joinery.Proofs.Dado.Stating
import Joinery.Proofs.FileTree.Siblings
import Joinery.Proofs.FileTree.Sights
import Joinery.Proofs.FileTree.Attempts
import Joinery.Proofs.FileTree.Passable
import Joinery.Proofs.FileTree.Writable
import Joinery.Proofs.FileTree.AllOrNothing
import Joinery.Proofs.FileTree.Growth
import Joinery.Proofs.Log.Clear
import Joinery.Proofs.Log.Destinations
import Joinery.Proofs.Log.History
import Joinery.Proofs.Json.Reader
import Joinery.Proofs.Json.Strings
import Joinery.Proofs.Json.Scalars
import Joinery.Proofs.Json.Objects
import Joinery.Proofs.Log.Decoded
import Joinery.Proofs.Value.Parts
import Joinery.Proofs.Gcode.Grammar
import Joinery.Proofs.Text.Alphabet
import Joinery.Proofs.Gcode.Operands
import Joinery.Proofs.Gcode.Shown
import Joinery.Proofs.Gcode.Amounts
import Joinery.Proofs.Gcode.Decoding
import Joinery.Proofs.Gcode.Recovery
import Joinery.Proofs.Decimal.Range
import Joinery.Proofs.Decimal.Scripts
import Joinery.Proofs.Config.Spelling
import Joinery.Proofs.Config.Amounts
import Joinery.Proofs.Config.QuantityText
import Joinery.Proofs.Config.RoundTrip
import Joinery.Proofs.Log.Context
