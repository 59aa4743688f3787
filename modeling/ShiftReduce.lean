import ShiftReduce.Main
import ShiftReduce.Proofs.Automaton.Structure
import ShiftReduce.Proofs.Grammar.Layout
import ShiftReduce.Proofs.Lexer.Declarations
import ShiftReduce.Proofs.Lexer.Extension
import ShiftReduce.Proofs.Lexer.Registry
import ShiftReduce.Proofs.Parser.Completion
import ShiftReduce.Proofs.Parser.Dependence
import ShiftReduce.Proofs.Parser.Location
import ShiftReduce.Proofs.Parser.Rearrangement
import ShiftReduce.Proofs.Parser.Reductions
import ShiftReduce.Proofs.Parser.Selection
import ShiftReduce.Proofs.Parser.Termination
import ShiftReduce.Proofs.Tree.Origins
import ShiftReduce.Proofs.Lexer.Failures
import ShiftReduce.Proofs.Tree.Drawing
import ShiftReduce.Proofs.Grammar.Pieces
import ShiftReduce.Proofs.Format.Dump
import ShiftReduce.Proofs.Tree.Outline
import ShiftReduce.Proofs.Parser.Diagrams
