import StaticContext.Session
import StaticContext.Proofs.PathComponents
import StaticContext.Proofs.PathNormalForm
import StaticContext.Proofs.StorageWalk
import StaticContext.Proofs.ContextDirectories
import StaticContext.Proofs.Loading
import StaticContext.Proofs.Invalidation
import StaticContext.Proofs.CallReplacement
import StaticContext.Proofs.SessionTracking
import StaticContext.Proofs.StaleMarks
import StaticContext.Proofs.Enumeration
import StaticContext.Proofs.AccessorBehavior
import StaticContext.Proofs.RelativeText
import StaticContext.Proofs.ModuleSpecifiers
import StaticContext.Proofs.CollisionChains
import StaticContext.Proofs.ImportBindings
import StaticContext.Proofs.MentionScan
import StaticContext.Proofs.TokenText
import StaticContext.Proofs.WordCharacters
import StaticContext.Proofs.Reading
import StaticContext.Proofs.CallText
import StaticContext.Proofs.Grammar.Pattern
import StaticContext.Proofs.Grammar.TypeExpression
import StaticContext.Proofs.Grammar.Function
import StaticContext.Proofs.Grammar.Class
import StaticContext.Proofs.Grammar.Element
import StaticContext.Proofs.Grammar.Expression
import StaticContext.Proofs.Grammar.Module
import StaticContext.Proofs.PlainCalls
import StaticContext.Proofs.ModuleKeys
import StaticContext.Proofs.ImportOrder
import StaticContext.Proofs.PathSpelling
import StaticContext.Proofs.InterleavedLoads
import StaticContext.Proofs.BindingNames
import StaticContext.Proofs.CallSearch
import StaticContext.Proofs.ExpansionFailures
import StaticContext.Proofs.QuotedText
import StaticContext.Proofs.LayoutText
import StaticContext.Proofs.PrintedAccessor
import StaticContext.Proofs.PrintedNames
import StaticContext.Proofs.LexicalResolution
import StaticContext.Proofs.KeyUniqueness
import StaticContext.Proofs.NameRules
