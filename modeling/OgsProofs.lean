import OgsProofs.ChemistryLib.Data
import OgsProofs.ChemistryLib.Coupling
import OgsProofs.ChemistryLib.Footprint
import OgsProofs.ChemistryLib.Script
import OgsProofs.ChemistryLib.Stod
import OgsProofs.ChemistryLib.Row
import OgsProofs.ChemistryLib.Result
import OgsProofs.ChemistryLib.Lockstep
import OgsProofs.ChemistryLib.Calculation
import OgsProofs.ChemistryLib.ResultFile
import OgsProofs.ChemistryLib.Run
import OgsProofs.MathLib.TemplatePoint
import OgsProofs.MathLib.PointOrder
