import JavadocTags.Config.Load
import JavadocTags.Proofs.Files.Reading
import JavadocTags.Proofs.Outcome

/-!
# The nearest configuration file

From a directory upwards, the first directory that holds a configuration file decides, unless one
before it holds a repository: a file beside the repository counts, a file above it does not, and
what is no file is passed over. As a loop the search goes from each directory to the one above it,
and the root is above itself; it takes one turn for each directory on the way at most.
-/
namespace JavadocTags.Config

variable {tree : FileTree} {directory : Location} {level : Nat}

end JavadocTags.Config
