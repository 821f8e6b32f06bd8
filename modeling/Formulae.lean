import Formulae.Formula.Symbolic
import Formulae.Main
import Formulae.Proofs.Batch
import Formulae.Proofs.BatchFault
import Formulae.Proofs.FirstPass
import Formulae.Proofs.Interchange
import Formulae.Proofs.SimplifyValue
import Formulae.Proofs.UniqueReading
import Formulae.RationalFunction
import Formulae.Proofs.Dependence
import Formulae.Proofs.Double.Negation
import Formulae.Proofs.Degree
import Formulae.Proofs.Exact
import Formulae.Proofs.Polynomial
import Formulae.Proofs.Growth
import Formulae.Proofs.Symbolic
import Formulae.Proofs.Complexity
import Formulae.Proofs.Emission
import Formulae.Proofs.NonFinite
import Formulae.Proofs.Indistinguishable
import Formulae.Proofs.Validation
import Formulae.Proofs.Context
import Formulae.Proofs.Configuration
import Formulae.Proofs.Reporting
import Formulae.Proofs.LevelOrder
import Formulae.Proofs.Profile
import Formulae.Proofs.SimplifyDegree
import Formulae.Proofs.Double.Neutral
import Formulae.Proofs.Absorption
import Formulae.Proofs.Lookup
import Formulae.Proofs.Usage
import Formulae.Proofs.Texts
import Formulae.Proofs.Equivalence
