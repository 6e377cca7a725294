import SledeCode.Cell
import SledeCode.Charset.Basic
import SledeCode.Charset.Chinese
import SledeCode.Charset.CodePage
import SledeCode.Charset.CodeTable
import SledeCode.Charset.Japanese
import SledeCode.Charset.RowSet
import SledeCode.Charset.Table.Big5
import SledeCode.Charset.Table.CodePages
import SledeCode.Charset.Table.Gb2312
import SledeCode.Charset.Table.Jis0208
import SledeCode.Charset.Table.Jis0212
import SledeCode.Diagnostic
import SledeCode.Disassembly
import SledeCode.Emission
import SledeCode.Encoding.Basic
import SledeCode.Encoding.Codecs
import SledeCode.Encoding.Name
import SledeCode.Failure
import SledeCode.Header
import SledeCode.Instruction
import SledeCode.LabelTable
import SledeCode.Layout
import SledeCode.Main
import SledeCode.Mnemonic
import SledeCode.Note
import SledeCode.Operand
import SledeCode.Program
import SledeCode.Proofs.AddressDrift
import SledeCode.Proofs.AddressLookup
import SledeCode.Proofs.AssembledPieces
import SledeCode.Proofs.AssemblyNotes
import SledeCode.Proofs.BindingHistory
import SledeCode.Proofs.BodyPartition
import SledeCode.Proofs.BoundLabels
import SledeCode.Proofs.CharacterBytes
import SledeCode.Proofs.CharacterCount
import SledeCode.Proofs.CodeCell
import SledeCode.Proofs.CommandFiles
import SledeCode.Proofs.CommandSteps
import SledeCode.Proofs.DataItems
import SledeCode.Proofs.DataSizing
import SledeCode.Proofs.DefaultOutput
import SledeCode.Proofs.DisassembledPage
import SledeCode.Proofs.EmissionFailure
import SledeCode.Proofs.EmissionOutcome
import SledeCode.Proofs.EncodedFields
import SledeCode.Proofs.EntryBytes
import SledeCode.Proofs.FileWrites
import SledeCode.Proofs.FirstFailure
import SledeCode.Proofs.InstructionWord
import SledeCode.Proofs.LabelDependence
import SledeCode.Proofs.LabelReferences
import SledeCode.Proofs.LabelledListing
import SledeCode.Proofs.LayoutAddresses
import SledeCode.Proofs.LegacySizing
import SledeCode.Proofs.LineShape
import SledeCode.Proofs.ListedCells
import SledeCode.Proofs.ListedCharacters
import SledeCode.Proofs.ListingRows
import SledeCode.Proofs.LiteralGrammar
import SledeCode.Proofs.NormalStatements
import SledeCode.Proofs.NumeralReading
import SledeCode.Proofs.OperandGrammar
import SledeCode.Proofs.PageReading
import SledeCode.Proofs.PathForms
import SledeCode.Proofs.Reassembly
import SledeCode.Proofs.RecoveredCode
import SledeCode.Proofs.SignificantLines
import SledeCode.Proofs.SourceConcatenation
import SledeCode.Proofs.StatementAgreement
import SledeCode.Proofs.StatementOffence
import SledeCode.Proofs.StepsInOrder
import SledeCode.Proofs.StrictLabels
import SledeCode.Proofs.Utf8Reading
import SledeCode.Proofs.WordFields
import SledeCode.Results
import SledeCode.Run
import SledeCode.Settings
import SledeCode.Statement
import SledeCode.Text.Basic
import SledeCode.Text.Composition
import SledeCode.Text.Direction
import SledeCode.Text.Folding
import SledeCode.Text.Numeral
import SledeCode.Text.Printable
import SledeCode.Text.Quoted
import SledeCode.Text.ShiftRun
import SledeCode.Text.Similarity
import SledeCode.Text.Styling
import SledeCode.Text.Uppercase
import SledeCode.Text.Utf8
import SledeCode.Text.WholeNumber
import SledeCode.Tool.Arguments
import SledeCode.Tool.Assemble
import SledeCode.Tool.Disassemble
import SledeCode.Tool.FileStore
import SledeCode.Tool.Host
import SledeCode.Tool.Path
import SledeCode.Tool.Report
import SledeCode.Tool.Session
import SledeCode.Tool.SourceFile
import SledeCode.Transfer.DomainName
import SledeCode.Transfer.Escape
import SledeCode.Transfer.Punycode
import SledeCode.Transfer.Utf7
import SledeCode.Word
