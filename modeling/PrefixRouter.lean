import PrefixRouter.Text.Split
import PrefixRouter.Method
import PrefixRouter.Pattern.Error
import PrefixRouter.Pattern.Basic
import PrefixRouter.Path.Clean
import PrefixRouter.Config
import PrefixRouter.Params.Basic
import PrefixRouter.Pool
import PrefixRouter.Table.Basic
import PrefixRouter.Table.Lookup
import PrefixRouter.Text.Unprintable
import PrefixRouter.Text.Escaped
import PrefixRouter.Router.Basic
import PrefixRouter.Router.Serve
import PrefixRouter.Table.Spec
import PrefixRouter.Proofs.Search
import PrefixRouter.Proofs.SearchLoop
import PrefixRouter.Proofs.Capture
import PrefixRouter.Proofs.Matching
import PrefixRouter.Proofs.Compile
import PrefixRouter.Proofs.Shadowing
import PrefixRouter.Proofs.Listing
import PrefixRouter.Proofs.Registration
import PrefixRouter.Proofs.Reaching
import PrefixRouter.Proofs.Reordering
import PrefixRouter.Proofs.Canonical
import PrefixRouter.Proofs.Session
import PrefixRouter.Proofs.Redirect
import PrefixRouter.Proofs.Refusal
import PrefixRouter.Proofs.Cleaning
import PrefixRouter.Proofs.Allowed
import PrefixRouter.Proofs.Placement
import PrefixRouter.Proofs.Resolving
import PrefixRouter.Proofs.Rendering
import PrefixRouter.Proofs.Refused
import PrefixRouter.Proofs.Recycling
import PrefixRouter.Proofs.Named
import PrefixRouter.Proofs.Asterisk
