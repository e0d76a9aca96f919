import QuestRecords.Text.LetterCase
import QuestRecords.Text.Blank
import QuestRecords.Text.Word
import QuestRecords.Text.Site
import QuestRecords.Source.Literal
import QuestRecords.Source.Piece
import QuestRecords.Source.Call
import QuestRecords.Source.Token
import QuestRecords.Source.ListLiteral
import QuestRecords.Source.Member
import QuestRecords.Source.ClassName
import QuestRecords.Decimal.Shortest
import QuestRecords.Json.Token
import QuestRecords.Json.Parser
import QuestRecords.Json.Printer
import QuestRecords.Quest.Requirement
import QuestRecords.Quest.Bindings
import QuestRecords.Diagnostics.Logged
import QuestRecords.Quest.Lamp
import QuestRecords.Quest.Step
import QuestRecords.Quest.Grouping
import QuestRecords.Quest.ItemReference
import QuestRecords.Quest.ItemText
import QuestRecords.Quest.Naming
import QuestRecords.Quest.Extraction
import QuestRecords.Quest.Assembly
import QuestRecords.Quest.RecordJson
import QuestRecords.Quest.ApprovedList
import QuestRecords.Diagnostics.Journal
import QuestRecords.Diagnostics.Window
import QuestRecords.Pipeline.Attempt
import QuestRecords.Files.Access
import QuestRecords.Toml.Parser
import QuestRecords.Settings.Environment
import QuestRecords.Settings.File
import QuestRecords.Batch.Run
import QuestRecords.Command.Compile
import QuestRecords.Command.Scrape
import QuestRecords.Command.Rehearsal
import QuestRecords.Batch.Rehearsal
import QuestRecords.Main
import QuestRecords.Proofs.Source.LiteralGrammar
import QuestRecords.Proofs.Batch.Schedule
import QuestRecords.Proofs.Batch.Collisions
import QuestRecords.Proofs.Pipeline.Processing
import QuestRecords.Proofs.Quest.AliasChain
import QuestRecords.Proofs.Source.LiteralArguments
import QuestRecords.Proofs.Source.Identifiers
import QuestRecords.Proofs.Source.Readings
import QuestRecords.Proofs.Source.Declarations
import QuestRecords.Proofs.Source.QuotedText
import QuestRecords.Proofs.Source.WrittenArguments
import QuestRecords.Proofs.Source.Numerals
import QuestRecords.Proofs.Quest.SetupStatements
import QuestRecords.Proofs.Quest.ReturnedItems
import QuestRecords.Proofs.Source.ClassSource
import QuestRecords.Proofs.Quest.ItemRequirements
import QuestRecords.Proofs.Quest.StepStatements
import QuestRecords.Proofs.Source.WrittenCalls
import QuestRecords.Proofs.Quest.PanelStatements
import QuestRecords.Proofs.Quest.PanelSteps
import QuestRecords.Proofs.Files.PathSteps
import QuestRecords.Proofs.Files.TreeWrites
import QuestRecords.Proofs.Pipeline.CheckoutPath
import QuestRecords.Proofs.Pipeline.RecordWrite
import QuestRecords.Proofs.Batch.Agree
import QuestRecords.Proofs.Diagnostics.Kept
import QuestRecords.Proofs.Diagnostics.Told
import QuestRecords.Proofs.Batch.Office
import QuestRecords.Proofs.Batch.Skips
import QuestRecords.Proofs.Batch.Threads
import QuestRecords.Proofs.Batch.Attribution
import QuestRecords.Proofs.Source.NestedBrackets
import QuestRecords.Proofs.Text.Spans
import QuestRecords.Proofs.Source.FirstDeclaration
import QuestRecords.Proofs.Pipeline.StageReport
import QuestRecords.Proofs.Settings.Layers
import QuestRecords.Proofs.Json.WrittenTokens
import QuestRecords.Proofs.Json.ReadBack
import QuestRecords.Proofs.Quest.RecordRoundTrip
import QuestRecords.Proofs.Pipeline.RecordReadBack
import QuestRecords.Proofs.Source.LaterText
import QuestRecords.Proofs.Source.ClosingParen
import QuestRecords.Proofs.Source.CutArguments
import QuestRecords.Proofs.Source.FoundCalls
import QuestRecords.Proofs.Quest.SequencedStatements
import QuestRecords.Proofs.Quest.ResolvedItems
import QuestRecords.Proofs.Quest.PanelAccount
import QuestRecords.Proofs.Quest.FirstBindings
import QuestRecords.Proofs.Text.Gathered
import QuestRecords.Proofs.Source.ListReaders
import QuestRecords.Proofs.Source.PlacedArguments
import QuestRecords.Proofs.Quest.MentionOrder
import QuestRecords.Proofs.Quest.LampSelection
import QuestRecords.Proofs.Quest.LampAmounts
import QuestRecords.Proofs.Quest.ApprovedNames
import QuestRecords.Proofs.Quest.BindingOrder
import QuestRecords.Proofs.Quest.ConstantNames
import QuestRecords.Proofs.Quest.ClassNames
import QuestRecords.Proofs.Diagnostics.Reported
import QuestRecords.Proofs.Quest.IndexedSteps
import QuestRecords.Proofs.Offsets.ClosingQuotes
import QuestRecords.Proofs.Source.SignedDigits
import QuestRecords.Proofs.Quest.StepCoordinates
import QuestRecords.Proofs.Diagnostics.Latest
