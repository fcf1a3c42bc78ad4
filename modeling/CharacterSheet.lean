import CharacterSheet.DefaultGraph
import CharacterSheet.Document.Library
import CharacterSheet.Json.Parser
import CharacterSheet.Json.Printer
import CharacterSheet.Library
import CharacterSheet.Sheet.Edit
import CharacterSheet.Sheet.Recalculate
import CharacterSheet.Proofs.FixedOrder
import CharacterSheet.Proofs.Resolution
import CharacterSheet.Proofs.DefaultChains
import CharacterSheet.Proofs.FastLevels
import CharacterSheet.Proofs.BonusLookup
import CharacterSheet.Proofs.Recalculation
import CharacterSheet.Proofs.Verdicts
import CharacterSheet.Proofs.ChosenValues
import CharacterSheet.Proofs.SourceState
import CharacterSheet.Proofs.SpellLookup
import CharacterSheet.Proofs.AttributeLookup
import CharacterSheet.Proofs.ConsistentLevels
import CharacterSheet.Proofs.SourceBytes
import CharacterSheet.Proofs.SourceFields
import CharacterSheet.Proofs.EarlyValues
import CharacterSheet.Proofs.Improvement
import CharacterSheet.Proofs.Substitution
import CharacterSheet.Proofs.ExplanationLines
import CharacterSheet.Proofs.RepeatedSubstitution
import CharacterSheet.Proofs.ReportedLoops
import CharacterSheet.Proofs.ItemIds
import CharacterSheet.Proofs.RecordedReasons
import CharacterSheet.Proofs.JsonText
import CharacterSheet.Proofs.NormalizedIds
import CharacterSheet.Proofs.SourceComparison
import CharacterSheet.Proofs.DocumentLaws
import CharacterSheet.Proofs.RuleDocuments
import CharacterSheet.Proofs.Rewriting
import CharacterSheet.Proofs.NestedCalls
import CharacterSheet.Proofs.ActiveFeatures
import CharacterSheet.Proofs.ItemOrder
import CharacterSheet.Proofs.NamedSkills
import CharacterSheet.Proofs.ContainedWeight
import CharacterSheet.Proofs.CollegeCase
import CharacterSheet.Proofs.OwnRequirements
import CharacterSheet.Proofs.TokenGrammar
import CharacterSheet.Proofs.PlaceholderTexts
import CharacterSheet.Proofs.CollectedValues
import CharacterSheet.Proofs.TemplateItems
import CharacterSheet.Proofs.TotalWeight
import CharacterSheet.Proofs.UnitConversion
import CharacterSheet.Proofs.NumberText
import CharacterSheet.Proofs.GraphContents
import CharacterSheet.Proofs.ListConditions
