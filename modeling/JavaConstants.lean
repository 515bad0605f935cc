import JavaConstants.Main
import JavaConstants.Proofs.CodeText
import JavaConstants.Proofs.ResourceClass
import JavaConstants.Proofs.Accounting
import JavaConstants.Proofs.FileTree
import JavaConstants.Proofs.Resolution
import JavaConstants.Proofs.Directories
import JavaConstants.Proofs.Refresh
import JavaConstants.Proofs.Nesting
import JavaConstants.Proofs.Replacement
import JavaConstants.Proofs.Generation
import JavaConstants.Proofs.ResourceGuard
import JavaConstants.Proofs.Commands
import JavaConstants.Proofs.Subtrees
import JavaConstants.Proofs.Exclusion
import JavaConstants.Proofs.Repetition
import JavaConstants.Proofs.StoredProperties
import JavaConstants.Proofs.Repair
import JavaConstants.Proofs.LiteralReading
import JavaConstants.Proofs.LoadedProperties
import JavaConstants.Proofs.LinkExclusion
import JavaConstants.Proofs.StyleRules
import JavaConstants.Proofs.StyleErrors
import JavaConstants.Proofs.NameSpelling
import JavaConstants.Proofs.MemberLocations
import JavaConstants.Proofs.EscapedUnits
import JavaConstants.Proofs.TypedConstants
import JavaConstants.Proofs.PathNames
import JavaConstants.Proofs.MergedClasses
import JavaConstants.Proofs.CommentLines
import JavaConstants.Proofs.FailedFiles
import JavaConstants.Proofs.ListingOrder
import JavaConstants.Proofs.DecodedBytes
import JavaConstants.Proofs.InsertionJournal
