import CourseLint.Main
import CourseLint.Proofs.Cuts
import CourseLint.Proofs.Matching
import CourseLint.Proofs.LineStarts
import CourseLint.Proofs.Placement
import CourseLint.Proofs.PatternParts
import CourseLint.Proofs.RuleRepairs
import CourseLint.Proofs.Suggestions
import CourseLint.Proofs.Round
import CourseLint.Proofs.CarriageReturns
import CourseLint.Proofs.LineFidelity
import CourseLint.Proofs.Potential
import CourseLint.Proofs.Settling
import CourseLint.Proofs.Selection
import CourseLint.Proofs.Splicing
import CourseLint.Proofs.Overwriting
import CourseLint.Proofs.Accounts
import CourseLint.Proofs.Reports
import CourseLint.Proofs.LineLocality
import CourseLint.Proofs.DelimiterScans
import CourseLint.Proofs.Disabling
import CourseLint.Proofs.CallSegments
import CourseLint.Proofs.SoundLines
import CourseLint.Proofs.LostDelimiters
import CourseLint.Proofs.Insertions
import CourseLint.Proofs.CallNeighbours
import CourseLint.Proofs.LineEdits
import CourseLint.Proofs.SparedCalls
import CourseLint.Proofs.LintRuns
import CourseLint.Proofs.Outlines
import CourseLint.Proofs.RepairRuns
import CourseLint.Proofs.EntryHeadings
import CourseLint.Proofs.SourceLayout
import CourseLint.Proofs.ResolvedKeys
import CourseLint.Proofs.HeaderLines
import CourseLint.Proofs.FieldReports
import CourseLint.Proofs.MissingFields
import CourseLint.Proofs.RegistryHistory
import CourseLint.Proofs.UnknownNames
import CourseLint.Proofs.JsonText
import CourseLint.Proofs.JsonLines
import CourseLint.Proofs.ReportContents
import CourseLint.Proofs.ReadingPaths
import CourseLint.Proofs.LeftToRight
import CourseLint.Proofs.DoiLinks
import CourseLint.Proofs.SnippetCalls
import CourseLint.Proofs.RulesListing
import CourseLint.Proofs.InsertedDelimiters
import CourseLint.Proofs.BoxTitles
import CourseLint.Proofs.TrainingLinks
import CourseLint.Proofs.JoinedPaths
import CourseLint.Proofs.JoinedLookups
import CourseLint.Proofs.Collecting
import CourseLint.Proofs.ParentPaths
import CourseLint.Proofs.ProjectRoots
import CourseLint.Proofs.ColoredReports
import CourseLint.Proofs.CaseFolding
import CourseLint.Proofs.VagueLinks
import CourseLint.Proofs.NamedLines
import CourseLint.Proofs.TrailingBreaks
import CourseLint.Proofs.DeletedTails
import CourseLint.Proofs.SharedStarts
import CourseLint.Proofs.LiteralRules
