import UtilityCss.Fault.Named
import UtilityCss.Files.Tree
import UtilityCss.Main
import UtilityCss.Proofs.Block.Cascade
import UtilityCss.Proofs.Block.Decoding
import UtilityCss.Proofs.ClassText.NormalForm
import UtilityCss.Proofs.CommandLine.TableFile
import UtilityCss.Proofs.Configuration.Broken
import UtilityCss.Proofs.Configuration.Precedence
import UtilityCss.Proofs.Desk.Accounts
import UtilityCss.Proofs.Desk.Frame
import UtilityCss.Proofs.Desk.LatestWins
import UtilityCss.Proofs.Desk.Reporting
import UtilityCss.Proofs.Desk.Reset
import UtilityCss.Proofs.Desk.Routes
import UtilityCss.Proofs.Guard
import UtilityCss.Proofs.Guard.Verdict
import UtilityCss.Proofs.LetterCase
import UtilityCss.Proofs.RecencyCache.ClosedForm
import UtilityCss.Proofs.RecencyCache.Inclusion
import UtilityCss.Proofs.Resolver.Advice
import UtilityCss.Proofs.Resolver.Browser.Serving
import UtilityCss.Proofs.Resolver.Browser.Sharing
import UtilityCss.Proofs.Resolver.Contexts
import UtilityCss.Proofs.Resolver.Static
import UtilityCss.Proofs.Shape
import UtilityCss.Proofs.Shape.Brackets
import UtilityCss.Resolver.Browser.Rehearsal
import UtilityCss.Session
