import TwigPrinter.Main
import TwigPrinter.Proofs.Accounting
import TwigPrinter.Proofs.Chains
import TwigPrinter.Proofs.Defects
import TwigPrinter.Proofs.Delimiters
import TwigPrinter.Proofs.Desugaring
import TwigPrinter.Proofs.Faults
import TwigPrinter.Proofs.Layers
import TwigPrinter.Proofs.Outlines
import TwigPrinter.Proofs.OwnTags
import TwigPrinter.Proofs.Places
import TwigPrinter.Proofs.Pruning
import TwigPrinter.Proofs.Quotations
import TwigPrinter.Proofs.Readings
import TwigPrinter.Proofs.Registrations
import TwigPrinter.Proofs.RoundTrip
import TwigPrinter.Proofs.Runs
import TwigPrinter.Proofs.Skeleton
import TwigPrinter.Proofs.TruthTests
import TwigPrinter.Proofs.Visits
import TwigPrinter.Proofs.Warnings
