import ScriptHost.Bundle
import ScriptHost.Config
import ScriptHost.Handle
import ScriptHost.HostAction
import ScriptHost.Languages
import ScriptHost.CommandLine
import ScriptHost.Program
import ScriptHost.Engine.Audited
import ScriptHost.Proofs.Narration
import ScriptHost.Proofs.World
import ScriptHost.Proofs.Mailbox
import ScriptHost.Proofs.Ledger
import ScriptHost.Proofs.Ownership
import ScriptHost.Proofs.Units
import ScriptHost.Proofs.Lexing
import ScriptHost.Proofs.Spelling
import ScriptHost.Proofs.QuotedTexts
import ScriptHost.Proofs.Parsing
import ScriptHost.Proofs.Phrases
import ScriptHost.Proofs.Statements
import ScriptHost.Proofs.EvaluatedTexts
import ScriptHost.Proofs.Tasks
import ScriptHost.Proofs.Variants
import ScriptHost.Proofs.Anchoring
import ScriptHost.Proofs.NamedItems
import ScriptHost.Proofs.Matching
import ScriptHost.Proofs.Reading
import ScriptHost.Proofs.Terms
import ScriptHost.Proofs.StringLiterals
import ScriptHost.Proofs.TemplateSource
import ScriptHost.Proofs.Compiling
import ScriptHost.Proofs.Alternatives
import ScriptHost.Proofs.Indices
import ScriptHost.Proofs.Depiction
import ScriptHost.Proofs.Marshalling
import ScriptHost.Proofs.Overlooking
import ScriptHost.Proofs.Disposal
import ScriptHost.Proofs.CompilerLife
import ScriptHost.Proofs.TableMarshalling
import ScriptHost.Proofs.Uncaught
import ScriptHost.Proofs.BundleText
import ScriptHost.Proofs.Pages
import ScriptHost.Proofs.TemplateNames
import ScriptHost.Proofs.Layering
import ScriptHost.Proofs.LazyGroups
import ScriptHost.Proofs.StandardTags
import ScriptHost.Proofs.VariableTags
import ScriptHost.Proofs.Renderers
import ScriptHost.Proofs.VariableTemplates
import ScriptHost.Proofs.ConfigLines
import ScriptHost.Proofs.QuotedValues
import ScriptHost.Proofs.FirstFailure
import ScriptHost.Proofs.RefusedSettings
import ScriptHost.Proofs.RefusedItems
import ScriptHost.Proofs.EngineLife
import ScriptHost.Proofs.BoundedDepth
import ScriptHost.Proofs.Classification
import ScriptHost.Proofs.FileNames
import ScriptHost.Proofs.Registrations
import ScriptHost.Proofs.MessagePlaces
import ScriptHost.Proofs.StackTexts
