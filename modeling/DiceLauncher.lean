import DiceLauncher.Dice.Scripted
import DiceLauncher.Dice.Tape
import DiceLauncher.Editor.Highlight
import DiceLauncher.Main
import DiceLauncher.Proofs.Dice.Drawing
import DiceLauncher.Proofs.Dice.Recording
import DiceLauncher.Proofs.Dice.Uniform
import DiceLauncher.Proofs.Editor.Agreement
import DiceLauncher.Proofs.Editor.Candidates
import DiceLauncher.Proofs.Launcher.Appending
import DiceLauncher.Proofs.Launcher.Title
import DiceLauncher.Proofs.Outcome.Subtotal
import DiceLauncher.Proofs.Program.SingleQuery
import DiceLauncher.Proofs.Report.Shown
import DiceLauncher.Proofs.Report.Exact
import DiceLauncher.Proofs.Report.GrandTotal
import DiceLauncher.Proofs.RollSpec.FaultMessage
import DiceLauncher.Proofs.RollSpec.NormalForm
import DiceLauncher.Proofs.Session.Rows
import DiceLauncher.Proofs.Settings.RoundTrip
import DiceLauncher.Proofs.Outcome.Accumulation
import DiceLauncher.Proofs.Settings.Listing
import DiceLauncher.Proofs.Editor.Painting
