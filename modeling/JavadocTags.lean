import JavadocTags.Main
import JavadocTags.Proofs.Java.SkeletonScan
import JavadocTags.Proofs.Java.Masking
import JavadocTags.Proofs.Java.DeclarationPlaces
import JavadocTags.Proofs.Java.JavadocLookup
import JavadocTags.Proofs.Java.NearestJavadoc
import JavadocTags.Proofs.Java.CommentIndependence
import JavadocTags.Proofs.Pattern.LiteralTag
import JavadocTags.Proofs.Pattern.TagSearch
import JavadocTags.Proofs.Java.DocumentedClass
import JavadocTags.Proofs.Check.DocumentedClass
import JavadocTags.Proofs.Check.VisitOutcome
import JavadocTags.Proofs.CommandLine.CheckRun
import JavadocTags.Proofs.Java.BlockLines
import JavadocTags.Proofs.Check.ReportLines
import JavadocTags.Proofs.Check.Validation
import JavadocTags.Proofs.CommandLine.Reading
import JavadocTags.Proofs.CommandLine.OptionTable
import JavadocTags.Proofs.Java.Truncation
import JavadocTags.Proofs.Java.DeclarationOrder
import JavadocTags.Proofs.Java.CursorWalk
import JavadocTags.Proofs.Config.Layering
import JavadocTags.Proofs.Java.PlainText
import JavadocTags.Proofs.Java.LiteralLines
import JavadocTags.Proofs.Java.BlockTexts
import JavadocTags.Proofs.Java.BlockIndex
import JavadocTags.Proofs.Java.TokenCover
import JavadocTags.Proofs.Java.ConstructedClass
import JavadocTags.Proofs.Java.DeclarationNames
import JavadocTags.Proofs.Java.Callables
import JavadocTags.Proofs.Check.LineEnds
import JavadocTags.Proofs.Pattern.Alternation
import JavadocTags.Proofs.Pattern.ContentGroup
import JavadocTags.Proofs.Config.Merging
import JavadocTags.Proofs.Config.CommaLists
import JavadocTags.Proofs.Report.Accounting
import JavadocTags.Proofs.Files.Collecting
import JavadocTags.Proofs.CommandLine.ShownConfig
import JavadocTags.Proofs.Config.Nearest
import JavadocTags.Proofs.Text.Offsets
import JavadocTags.Proofs.Java.Skipping
import JavadocTags.Proofs.CommandLine.WrittenFile
