import Concordance.Highlight
import Concordance.Proofs.Query.Evaluation
import Concordance.Proofs.Query.Operators
import Concordance.Proofs.Search.OwnText
import Concordance.Proofs.Search.Phrases
import Concordance.Searcher
import Concordance.Storage.Config
import Concordance.Proofs.Passage.RoundTrip
import Concordance.Proofs.Search.Ranges
import Concordance.Proofs.Search.Signs
import Concordance.Proofs.Index.Vocabulary
import Concordance.Proofs.Search.Provenance
import Concordance.Proofs.Pattern.Complete
import Concordance.Proofs.Pattern.Pieces
import Concordance.Proofs.Text.Prose
import Concordance.Proofs.Pattern.Blocks
import Concordance.Proofs.Search.Parity
import Concordance.Proofs.Search.Mixed
import Concordance.Proofs.Search.Adjacent
import Concordance.Proofs.Query.Chains
import Concordance.Proofs.Search.Agreement
import Concordance.Proofs.Passage.Grammar
import Concordance.Proofs.Passage.Reading
import Concordance.Proofs.Passage.Expressions
import Concordance.Proofs.Index.Sums
import Concordance.Proofs.Index.Updates
import Concordance.Proofs.Markup.Brackets
import Concordance.Proofs.Markup.TagWords
import Concordance.Proofs.Search.TagRuns
import Concordance.Proofs.Search.Tags
import Concordance.Proofs.Archive.Reading
import Concordance.Proofs.Storage.Backends
import Concordance.Proofs.Storage.Truncation
import Concordance.Proofs.Search.Sharing
import Concordance.Proofs.Index.Algebra
import Concordance.Proofs.Search.Unreadable
import Concordance.Proofs.Pattern.Order
import Concordance.Proofs.Search.Strictness
import Concordance.Proofs.Query.Grammar
import Concordance.Proofs.Index.Wildcard
import Concordance.Proofs.Markup.ItemWise
import Concordance.Proofs.Passage.Wording
import Concordance.Proofs.Highlight.Words
import Concordance.Proofs.Highlight.Wildcard
import Concordance.Proofs.Highlight.Undone
import Concordance.Proofs.Pattern.PhraseGroups
import Concordance.Proofs.Passage.Context
import Concordance.Proofs.Search.Normal
import Concordance.Proofs.Search.TagTerms
import Concordance.Proofs.Verse.Parts
import Concordance.Proofs.Passage.Walk
import Concordance.Proofs.Storage.Replacement
