import SchemaDesk.Assistant.Answer
import SchemaDesk.Assistant.Cache
import SchemaDesk.Assistant.Chat
import SchemaDesk.Assistant.Excerpt
import SchemaDesk.Assistant.Prompt
import SchemaDesk.Assistant.Session
import SchemaDesk.Block.Scope
import SchemaDesk.Cursor.Cues
import SchemaDesk.Decimal.Binary64
import SchemaDesk.Decimal.Reader
import SchemaDesk.Decimal.Shortest
import SchemaDesk.Decimal.Style
import SchemaDesk.Document.Lines
import SchemaDesk.Document.Position
import SchemaDesk.Editor.Basic
import SchemaDesk.Editor.Buffer
import SchemaDesk.Editor.Completion
import SchemaDesk.Editor.Ghost
import SchemaDesk.Editor.Hover
import SchemaDesk.Editor.Keys
import SchemaDesk.Editor.Offer
import SchemaDesk.Fault
import SchemaDesk.Files
import SchemaDesk.Formatting.CommandLine
import SchemaDesk.Formatting.Formatter
import SchemaDesk.Formatting.LocalPass
import SchemaDesk.Formatting.Provider
import SchemaDesk.Formatting.Service
import SchemaDesk.Formatting.Session
import SchemaDesk.Highlight.Comments
import SchemaDesk.Highlight.Format
import SchemaDesk.Highlight.Line
import SchemaDesk.Highlight.Rules
import SchemaDesk.Hover.Docs
import SchemaDesk.Hover.Lookup
import SchemaDesk.Jobs
import SchemaDesk.Json.Basic
import SchemaDesk.Json.Conversion
import SchemaDesk.Json.Nesting
import SchemaDesk.Json.Parser
import SchemaDesk.Json.Printer
import SchemaDesk.Keyed
import SchemaDesk.Launch.Arguments
import SchemaDesk.Launch.Start
import SchemaDesk.Main
import SchemaDesk.Path
import SchemaDesk.Proofs.AcceptedCompletion
import SchemaDesk.Proofs.AdoptedSuggestion
import SchemaDesk.Proofs.AssistEvents
import SchemaDesk.Proofs.AssistTracking
import SchemaDesk.Proofs.AssistUnderway
import SchemaDesk.Proofs.BinaryRounding
import SchemaDesk.Proofs.BlockComments
import SchemaDesk.Proofs.BlockStructure
import SchemaDesk.Proofs.CacheHistory
import SchemaDesk.Proofs.ChatOutcomes
import SchemaDesk.Proofs.CleanedAnswers
import SchemaDesk.Proofs.ColouredSpans
import SchemaDesk.Proofs.CommentMarks
import SchemaDesk.Proofs.CompletionOffers
import SchemaDesk.Proofs.CursorSigns
import SchemaDesk.Proofs.DecimalLayouts
import SchemaDesk.Proofs.DeclaredNames
import SchemaDesk.Proofs.DefaultValues
import SchemaDesk.Proofs.DocumentForms
import SchemaDesk.Proofs.DocumentPlaces
import SchemaDesk.Proofs.DocumentTexts
import SchemaDesk.Proofs.EditorClocks
import SchemaDesk.Proofs.EditorEvents
import SchemaDesk.Proofs.ExclusiveSigns
import SchemaDesk.Proofs.FileStates
import SchemaDesk.Proofs.FilledGaps
import SchemaDesk.Proofs.FirstPlaces
import SchemaDesk.Proofs.FormatOutcomes
import SchemaDesk.Proofs.FormatTickets
import SchemaDesk.Proofs.FormattedDocument
import SchemaDesk.Proofs.FormattedParts
import SchemaDesk.Proofs.HoverCards
import SchemaDesk.Proofs.InsideStrings
import SchemaDesk.Proofs.KeyOrder
import SchemaDesk.Proofs.LineComments
import SchemaDesk.Proofs.LineEdges
import SchemaDesk.Proofs.LineFeeds
import SchemaDesk.Proofs.LineShapes
import SchemaDesk.Proofs.LineTokens
import SchemaDesk.Proofs.LocalFormatting
import SchemaDesk.Proofs.NormalSections
import SchemaDesk.Proofs.NumberTexts
import SchemaDesk.Proofs.ObjectMembers
import SchemaDesk.Proofs.OfferedTypes
import SchemaDesk.Proofs.OfferedValues
import SchemaDesk.Proofs.OpenBraces
import SchemaDesk.Proofs.OpenedFiles
import SchemaDesk.Proofs.ReplacedTokens
import SchemaDesk.Proofs.RequestedPlaces
import SchemaDesk.Proofs.RestedRequests
import SchemaDesk.Proofs.Run
import SchemaDesk.Proofs.SavedFiles
import SchemaDesk.Proofs.ServiceReplies
import SchemaDesk.Proofs.SettingsCycle
import SchemaDesk.Proofs.SettingsEvents
import SchemaDesk.Proofs.SettingsHistory
import SchemaDesk.Proofs.SettingsLayers
import SchemaDesk.Proofs.SettingsStart
import SchemaDesk.Proofs.SettledSections
import SchemaDesk.Proofs.ShortestDecimals
import SchemaDesk.Proofs.SilencedSession
import SchemaDesk.Proofs.SnippetExpansion
import SchemaDesk.Proofs.StaleAnswers
import SchemaDesk.Proofs.StringTexts
import SchemaDesk.Proofs.SuggestionSequence
import SchemaDesk.Proofs.TemporaryFiles
import SchemaDesk.Proofs.TextBeforeCursor
import SchemaDesk.Proofs.TextForms
import SchemaDesk.Proofs.TextRuns
import SchemaDesk.Proofs.TidyDocuments
import SchemaDesk.Proofs.ToolVisits
import SchemaDesk.Proofs.WindowEvents
import SchemaDesk.Proofs.WrittenLines
import SchemaDesk.Proofs.WrittenTemplates
import SchemaDesk.Report.Assistant
import SchemaDesk.Report.Basic
import SchemaDesk.Report.Formatting
import SchemaDesk.Report.Language
import SchemaDesk.Report.Window
import SchemaDesk.Settings.Defaults
import SchemaDesk.Settings.Layers
import SchemaDesk.Settings.Normal
import SchemaDesk.Settings.Store
import SchemaDesk.Size
import SchemaDesk.Snippet.Template
import SchemaDesk.Suggestion.Basic
import SchemaDesk.Suggestion.Catalog
import SchemaDesk.Suggestion.Request
import SchemaDesk.Suggestion.Token
import SchemaDesk.Text.Basic
import SchemaDesk.Text.CaseTable
import SchemaDesk.Text.Lowercase
import SchemaDesk.Text.PrintTable
import SchemaDesk.Text.Quoted
import SchemaDesk.Text.Scan
import SchemaDesk.Text.Utf8
import SchemaDesk.Text.Word
import SchemaDesk.Text.WordTable
import SchemaDesk.Transport.Exchange
import SchemaDesk.Transport.Literal
import SchemaDesk.Transport.Url
import SchemaDesk.Window
